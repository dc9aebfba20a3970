import MigrateImageRepository.ExternalCluster.Export
import MigrateImageRepository.ExternalCluster.Repeated

/-! What an export can ask of the cluster.
Whatever the cluster answers and wherever the run stops, an export creates only users it
was asked for, with the capabilities of their kind, and it never touches a user that
exists. -/

namespace MigrateImageRepository.ExternalCluster.Requests
open Dialogue Dialogue.Prog Cluster Export Repeated Upgrade Users

def Quiet (op : Op) : Prop := changesUsers op = false

/-- The arguments once the cluster has named the file system and its pools. -/
def Filled (args args' : Args) : Prop :=
  ∃ fs metadataPool dataPool, args' = { args with
    cephfsFilesystemName := fs
    cephfsMetadataPoolName := metadataPool
    cephfsDataPoolName := dataPool }

theorem Filled.refl (args : Args) : Filled args args := ⟨_, _, _, rfl⟩

section Quiet

variable (py : Python) (args : Args)

theorem asks_dryRun {P : Op → Prop} (hP : ∀ msg, P (.print msg)) (msg : String) :
    Asks (dryRun args msg) P (fun _ => True) := by
  simp [dryRun, hP]

theorem quiet_dryRun (msg : String) : Asks (dryRun args msg) Quiet (fun _ => True) :=
  asks_dryRun args (fun _ => rfl) msg

theorem quiet_getFsid :
    Asks (getFsid args) Quiet (fun fsid => args.dryRun = false → ∃ text, fsid = some text) := by
  rw [getFsid, asks_ite]
  refine ⟨fun hdry => ?_, fun _ => ?_⟩
  · exact (quiet_dryRun args _).bind fun _ _ hno => absurd hdry (by simp [hno])
  · simp [Quiet, changesUsers]

theorem quiet_validateRbdPool : Asks (validateRbdPool args) Quiet (fun _ => True) := by
  simp [validateRbdPool, Quiet, changesUsers]

theorem quiet_initRbdPool : Asks (initRbdPool args) Quiet (fun _ => True) := by
  simp [initRbdPool, orStop, Quiet, changesUsers]

theorem quiet_validateRadosNamespace :
    Asks (validateRadosNamespace py args) Quiet (fun _ => True) := by
  simp [validateRadosNamespace, orStop, Quiet, changesUsers]

theorem quiet_getCephExternalMonData :
    Asks (getCephExternalMonData args) Quiet
      (fun data => args.dryRun = false → ∃ text, data = some text ∧ text ≠ "") := by
  rw [getCephExternalMonData, asks_ite]
  refine ⟨fun hdry => ?_, fun _ => ?_⟩
  · exact (quiet_dryRun args _).bind fun _ _ hno => absurd hdry (by simp [hno])
  · simp only [asks_bind, asks_ask, asks_ite, asks_fail, implies_true, true_and]
    refine ⟨rfl, fun reply _ => ?_⟩
    cases reply.out with
    | none => exact trivial
    | some quorum => simp

theorem quiet_getCephDashboardLink : Asks (getCephDashboardLink args) Quiet (fun _ => True) := by
  simp [getCephDashboardLink, quiet_dryRun, Quiet, changesUsers]

theorem asks_validateRbdMetadataEcPoolName {P : Op → Prop}
    (hP : args.rbdMetadataEcPoolName ≠ "" → P .osdDump) :
    Asks (validateRbdMetadataEcPoolName args) P (fun _ => True) := by
  simp only [validateRbdMetadataEcPoolName, asks_ite, asks_bind, asks_ask, asks_fail,
    asks_pure, implies_true, true_and]
  refine fun hname _ => ⟨hP hname, fun reply _ => ?_⟩
  cases reply.out with
  | none => exact trivial
  | some pools => simp

theorem quiet_validateRbdMetadataEcPoolName :
    Asks (validateRbdMetadataEcPoolName args) Quiet (fun _ => True) :=
  asks_validateRbdMetadataEcPoolName args (fun _ => rfl)

theorem quiet_takeFilesystem (fs : Filesystem) :
    Asks (takeFilesystem py args fs) Quiet (Filled args) := by
  rw [takeFilesystem]
  split
  · exact asks_fail
  · split
    · exact ⟨_, _, _, rfl⟩
    · simp only [asks_bind, asks_ite]
      exact ⟨fun _ => ⟨rfl, fun _ => ⟨_, _, _, rfl⟩⟩, fun _ => ⟨_, _, _, rfl⟩⟩

theorem quiet_getCephfsDataPoolDetails :
    Asks (getCephfsDataPoolDetails py args) Quiet (Filled args) := by
  rw [getCephfsDataPoolDetails]
  simp only [asks_bind, asks_ite, asks_ask, asks_pure, asks_ofExcept, asks_fail, implies_true,
    Filled.refl, quiet_dryRun, true_and]
  refine fun _ => ⟨rfl, fun reply _ found _ => ?_⟩
  cases found with
  | none => exact Filled.refl args
  | some fs => exact quiet_takeFilesystem py args fs

def subvolumeGroupCommands (fs subvolumeGroup : String) : List (List String) :=
  [["ceph", "fs", "subvolumegroup", "getpath", fs, subvolumeGroup],
    ["ceph", "fs", "subvolumegroup", "create", fs, subvolumeGroup],
    ["ceph", "fs", "subvolumegroup", "pin", fs, subvolumeGroup, "distributed", "1"]]

theorem asks_getOrCreateSubvolumeGroup {P : Op → Prop} {subvolumeGroup fs : String}
    (hP : ∀ cmd ∈ subvolumeGroupCommands fs subvolumeGroup, P (.checkOutput cmd)) :
    Asks (getOrCreateSubvolumeGroup subvolumeGroup fs) P (fun _ => True) := by
  simp only [getOrCreateSubvolumeGroup, asks_bind, asks_ask]
  refine ⟨hP _ (by simp [subvolumeGroupCommands]), fun found => ?_⟩
  cases found with
  | ok keys => exact trivial
  | error failure =>
    simp only [asks_bind, asks_ask]
    refine ⟨hP _ (by simp [subvolumeGroupCommands]), fun created => ?_⟩
    cases created <;> exact trivial

theorem asks_pinSubvolume {P : Op → Prop} {subvolumeGroup fs : String}
    (hP : ∀ cmd ∈ subvolumeGroupCommands fs subvolumeGroup, P (.checkOutput cmd)) :
    Asks (pinSubvolume subvolumeGroup fs "distributed" "1") P (fun _ => True) := by
  simp only [pinSubvolume, asks_bind, asks_ask]
  refine ⟨hP _ (by simp [subvolumeGroupCommands]), fun pinned => ?_⟩
  cases pinned <;> exact trivial

theorem quiet_rgwUserOutput : Asks (rgwUserOutput args) Quiet (fun _ => True) := by
  simp only [rgwUserOutput, asks_bind, asks_ask]
  refine ⟨rfl, fun created => ?_⟩
  cases created with
  | ok output => exact trivial
  | error failure => simp [Quiet, changesUsers]

theorem quiet_createRgwAdminOpsUser :
    Asks (createRgwAdminOpsUser args) Quiet (fun _ => True) := by
  rw [createRgwAdminOpsUser]
  simp only [asks_ite, asks_bind, asks_pure, quiet_dryRun, implies_true, true_and]
  refine fun _ => (quiet_rgwUserOutput args).mono (fun _ hop => hop) (fun output _ => ?_)
  cases output with
  | none => exact trivial
  | some output =>
    simp only [asks_bind, asks_ask]
    refine ⟨rfl, fun added => ?_⟩
    rcases added with failure | _ | keys
    · cases output <;> simp
    · exact trivial
    · exact trivial

theorem quiet_validateRgwMultisite (name config : String) :
    Asks (validateRgwMultisite name config) Quiet (fun _ => True) := by
  simp [validateRgwMultisite, Quiet, changesUsers]

theorem quiet_validateRgwEndpointTlsCert :
    Asks (validateRgwEndpointTlsCert args) Quiet (fun _ => True) := by
  simp [validateRgwEndpointTlsCert, orStop, Quiet, changesUsers]

theorem quiet_getActiveAndStandbyMgrs :
    Asks (getActiveAndStandbyMgrs args) Quiet (fun _ => True) := by
  simp [getActiveAndStandbyMgrs, quiet_dryRun, Quiet, changesUsers]

theorem quiet_writeOutput (output : String) :
    Asks (writeOutput args output) Quiet (fun _ => True) := by
  simp [writeOutput, orStop, Quiet, changesUsers]

def RgwOut (rgw : RgwExport) : Prop :=
  rgw.endpoint = "" ∧ rgw.keys = [] ∨ ∃ accessKey secretKey, rgw.keys =
    [("RGW_ADMIN_OPS_USER_ACCESS_KEY", accessKey), ("RGW_ADMIN_OPS_USER_SECRET_KEY", secretKey)]

theorem quiet_exportRgw : Asks (exportRgw args) Quiet RgwOut := by
  simp [exportRgw, quiet_createRgwAdminOpsUser, quiet_validateRgwMultisite, orStop,
    quiet_validateRgwEndpointTlsCert, Quiet, changesUsers, RgwOut]

theorem quiet_prepare : Asks (prepare py args) Quiet (Filled args) := by
  rw [prepare]
  apply (quiet_validateRbdPool args).bind
  intro _ _
  apply (quiet_initRbdPool args).bind
  intro _ _
  apply (quiet_validateRadosNamespace py args).bind
  exact fun _ _ => quiet_getCephfsDataPoolDetails py args

end Quiet

def DryRunMay (args : Args) : Op → Prop
  | .print _ => True
  | .poolExists pool => pool = args.rbdDataPoolName
  | .poolInit pool => pool = args.rbdDataPoolName
  | .namespaceExists pool radosNamespace =>
    pool = args.rbdDataPoolName ∧ radosNamespace = args.radosNamespace
  | .osdDump => args.rbdMetadataEcPoolName ≠ ""
  | .checkOutput cmd => args.cephfsFilesystemName ≠ "" ∧ args.cephfsDataPoolName ≠ "" ∧
    ∃ group, (group = "csi" ∨ group = args.subvolumeGroup ∧ group ≠ "") ∧
      cmd ∈ subvolumeGroupCommands args.cephfsFilesystemName group
  | .writeFile path _ => path = args.output
  | _ => False

theorem DryRunMay.quiet {args : Args} {op : Op} (h : DryRunMay args op) : Quiet op := by
  cases op with
  | authGetOrCreate => exact h.elim
  | authCaps => exact h.elim
  | _ => rfl

section DryRun

variable {args : Args} (py : Python)

theorem mayPrint (msg : String) : Asks (dryRun args msg) (DryRunMay args) (fun _ => True) :=
  asks_dryRun args (fun _ => trivial) msg

theorem dryRun_prepare (hdry : args.dryRun = true) :
    Asks (prepare py args) (DryRunMay args) (fun args' => args' = args) := by
  simp [prepare, validateRbdPool, initRbdPool, validateRadosNamespace, getCephfsDataPoolDetails,
    hdry, orStop, DryRunMay, mayPrint]

theorem dryRun_createKey (hdry : args.dryRun = true) (user : String) (huser : user ∈ baseUsers)
    (failure : String) :
    Asks (createKey args user failure) (DryRunMay args) (fun result => result.1 = args) := by
  rw [createKey, asks_bind, asks_ofExcept]
  rintro ⟨args', caps, entity⟩ hcaps
  rw [getCapsAndEntity_base huser (mapError_eq_ok.mp hcaps)]
  simp [hdry, mayPrint]

theorem dryRun_createCheckerKey (hdry : args.dryRun = true) :
    Asks (createCheckerKey args "client.healthchecker") (DryRunMay args)
      (fun result => result.1 = args) := by
  rw [createCheckerKey, asks_bind]
  exact dryRun_createKey hdry "client.healthchecker" (by decide) _

theorem dryRun_createCephCSIKeyringUser (hdry : args.dryRun = true) (user : String)
    (huser : user ∈ baseUsers) :
    Asks (createCephCSIKeyringUser args user) (DryRunMay args)
      (fun result => result.1 = args) := by
  rw [createCephCSIKeyringUser, asks_bind]
  exact dryRun_createKey hdry user huser _

theorem dryRun_exportCephfs (hdry : args.dryRun = true) :
    Asks (exportCephfs args) (DryRunMay args) (fun result => result.1 = args) := by
  rw [exportCephfs, asks_ite]
  refine ⟨fun hnames => ?_, fun _ => rfl⟩
  have hcmd : ∀ group, group = "csi" ∨ group = args.subvolumeGroup ∧ group ≠ "" →
      ∀ cmd ∈ subvolumeGroupCommands args.cephfsFilesystemName group,
        DryRunMay args (.checkOutput cmd) :=
    fun group hgroup cmd hcmd => ⟨hnames.1, hnames.2, group, hgroup, hcmd⟩
  apply (dryRun_createCephCSIKeyringUser hdry "client.csi-cephfs-node" (by decide)).bind
  rintro ⟨_, nodeSecret, nodeName⟩ rfl
  apply (dryRun_createCephCSIKeyringUser hdry "client.csi-cephfs-provisioner" (by decide)).bind
  rintro ⟨_, provisionerSecret, provisionerName⟩ rfl
  apply (asks_getOrCreateSubvolumeGroup (hcmd "csi" (Or.inl rfl))).bind
  intro _ _
  apply (asks_pinSubvolume (hcmd "csi" (Or.inl rfl))).bind
  intro _ _
  simp only [asks_ite, asks_bind, asks_pure, implies_true, and_true]
  intro hgroup
  apply (asks_getOrCreateSubvolumeGroup (hcmd _ (Or.inr ⟨rfl, hgroup⟩))).mono (fun _ h => h)
  intro _ _
  exact (asks_pinSubvolume (hcmd _ (Or.inr ⟨rfl, hgroup⟩))).mono (fun _ h => h)
    (fun _ _ => trivial)

theorem dryRun_exportRgw (hdry : args.dryRun = true) :
    Asks (exportRgw args) (DryRunMay args) (fun _ => True) := by
  simp [exportRgw, createRgwAdminOpsUser, hdry, mayPrint]

theorem dryRunMay_lowerClusterName :
    DryRunMay (lowerClusterName py args) = DryRunMay args := by
  funext op
  cases op <;> rfl

theorem dryRun_onlyPrints (hdry : args.dryRun = true) :
    Asks (getFsid args) (DryRunMay args) (fun _ => True) ∧
      Asks (getCephExternalMonData args) (DryRunMay args) (fun _ => True) ∧
      Asks (getCephDashboardLink args) (DryRunMay args) (fun _ => True) ∧
      Asks (getActiveAndStandbyMgrs args) (DryRunMay args) (fun _ => True) := by
  simp [getFsid, getCephExternalMonData, getCephDashboardLink, getActiveAndStandbyMgrs, hdry,
    mayPrint]

theorem dryRun_genOutputMap (hdry : args.dryRun = true) :
    Asks (genOutputMap py args) (DryRunMay args) (fun _ => True) := by
  replace hdry : (lowerClusterName py args).dryRun = true := hdry
  rw [genOutputMap, ← dryRunMay_lowerClusterName py]
  generalize lowerClusterName py args = args at hdry
  obtain ⟨hfsid, hmonData, hlink, hmgrs⟩ := dryRun_onlyPrints hdry
  apply (dryRun_prepare py hdry).bind
  rintro args rfl
  apply hfsid.bind
  intro fsid _
  apply hmonData.bind
  intro monData _
  apply (dryRun_createCheckerKey hdry).bind
  rintro ⟨args, userSecret⟩ rfl
  apply hlink.bind
  intro dashboardLink _
  apply (dryRun_createCephCSIKeyringUser hdry "client.csi-rbd-node" (by decide)).bind
  rintro ⟨args, rbdNode⟩ rfl
  apply (dryRun_createCephCSIKeyringUser hdry "client.csi-rbd-provisioner" (by decide)).bind
  rintro ⟨args, rbdProvisioner⟩ rfl
  apply (dryRun_exportCephfs hdry).bind
  rintro ⟨args, cephfs⟩ rfl
  apply hmgrs.bind
  intro monitoring _
  apply (asks_validateRbdMetadataEcPoolName args id).bind
  intro ecPoolName _
  apply (dryRun_exportRgw hdry).bind
  exact fun _ _ => trivial

theorem dryRun_generateOutput (hdry : args.dryRun = true) (hupgrade : args.upgrade = false) :
    Asks (generateOutput py args) (DryRunMay args) (fun _ => True) := by
  have hmap := dryRun_genOutputMap py hdry
  simp [generateOutput, hupgrade, genJsonOut, genShellOut, hdry, hmap]

theorem dryRun_main (hdry : args.dryRun = true) (hupgrade : args.upgrade = false) :
    Asks (main py args) (DryRunMay args) (fun _ => True) := by
  apply (dryRun_generateOutput py hdry hupgrade).bind
  intro output _
  simp [writeOutput, orStop, DryRunMay]

/-- An export fills in the user that checks the health and the pool prefix. -/
def exportArgs (args : Args) : Args :=
  { args with
    runAsUser := if args.runAsUser = "" then "client.healthchecker" else args.runAsUser
    rgwPoolPrefix := if args.rgwPoolPrefix = "" then "default" else args.rgwPoolPrefix }

theorem init_of_export {args args' : Args} (hupgrade : args.upgrade = false)
    (h : init args = .ok args') : args' = exportArgs args := by
  cases args
  subst hupgrade
  rw [init, checkConflictingOptions] at h
  split at h
  · cases h
  · cases h
    simp only [exportArgs, and_true]
    split <;> split <;> simp_all

/-- Whatever it is answered, a dry run that is no upgrade asks nothing about users or
gateways and changes none of them. It does initialize the pool and, when the file system and
its data pool are given, creates and pins the subvolume groups. -/
theorem dryRun_script (args : Args) (hdry : args.dryRun = true) (hupgrade : args.upgrade = false) :
    Asks (script py args) (DryRunMay args) (fun _ => True) := by
  rw [script, asks_bind, asks_ofExcept]
  intro args' hinit
  rw [init_of_export hupgrade hinit]
  have hdry' : (exportArgs args).dryRun = true := hdry
  refine (dryRun_main py hdry' hupgrade).mono ?_ (fun _ _ => trivial)
  intro op hop
  cases op <;> exact hop

end DryRun

theorem dryRun_script_replicapool :
    Asks (script asciiPython { replicapoolArgs with dryRun := true })
      (DryRunMay { replicapoolArgs with dryRun := true }) (fun _ => True) :=
  dryRun_script asciiPython _ rfl rfl

end MigrateImageRepository.ExternalCluster.Requests
