import Mathlib.Data.List.Infix
import Mathlib.Data.List.Nodup

/-! The Ceph users that `create-external-cluster-resources.py` hands to a Kubernetes
cluster: their names and the capabilities each of them gets. Restricted users carry the
cluster, the pool or file system and the RADOS namespace in their names. -/

namespace MigrateImageRepository.ExternalCluster.Users

/-- A flag without a type: a text from the command line, or a Boolean set by the code. -/
inductive Flag where
  | text (s : String)
  | bool (b : Bool)
deriving DecidableEq

def Flag.truthy : Flag → Bool
  | .text s => s != ""
  | .bool b => b

/-- The command line with the defaults of `gen_arg_parser`. `runAsUser` is the attribute
of the object, which `__init__` takes over from the command line. -/
structure Args where
  runAsUser : String := ""
  k8sClusterName : String := ""
  namespaceName : String := ""
  rgwPoolPrefix : String := ""
  restrictedAuthPermission : Flag := .bool false
  v2PortEnable : Bool := false
  format : String := "json"
  output : String := ""
  cephfsFilesystemName : String := ""
  cephfsMetadataPoolName : String := ""
  cephfsDataPoolName : String := ""
  rbdDataPoolName : String := ""
  aliasRbdDataPoolName : String := ""
  rgwEndpoint : String := ""
  rgwTlsCertPath : String := ""
  skipMonitoringEndpoint : Bool := false
  rbdMetadataEcPoolName : String := ""
  dryRun : Bool := false
  radosNamespace : String := ""
  subvolumeGroup : String := ""
  rgwRealmName : String := ""
  rgwZoneName : String := ""
  rgwZonegroupName : String := ""
  upgrade : Bool := false

/-- Capabilities as a Python dictionary literal: services in order, each with its text. -/
abbrev Caps := List (String × String)

def cephfsCapsAndEntity (args : Args) (entity : String) (caps : String → Caps) :
    Except String (Caps × String) :=
  if args.restrictedAuthPermission.truthy then
    if args.k8sClusterName = "" then
      .error "k8s_cluster_name not found, please set the '--k8s-cluster-name' flag"
    else if args.cephfsFilesystemName = "" then
      .ok (caps "*", entity ++ "-" ++ args.k8sClusterName)
    else
      .ok (caps args.cephfsFilesystemName,
        entity ++ "-" ++ args.k8sClusterName ++ "-" ++ args.cephfsFilesystemName)
  else .ok (caps "*", entity)

def getCephfsProvisionerCapsAndEntity (args : Args) : Except String (Caps × String) :=
  cephfsCapsAndEntity args "client.csi-cephfs-provisioner" (fun fs =>
    [("mon", "allow r, allow command 'osd blocklist'"),
      ("mgr", "allow rw"),
      ("osd", "allow rw tag cephfs metadata=" ++ fs)])

def getCephfsNodeCapsAndEntity (args : Args) : Except String (Caps × String) :=
  cephfsCapsAndEntity args "client.csi-cephfs-node" (fun fs =>
    [("mon", "allow r, allow command 'osd blocklist'"),
      ("mgr", "allow rw"),
      ("osd", "allow rw tag cephfs *=" ++ fs),
      ("mds", "allow rw")])

def hasDotOrUnderscore (name : String) : Prop := '.' ∈ name.toList ∨ '_' ∈ name.toList

instance (name : String) : Decidable (hasDotOrUnderscore name) :=
  inferInstanceAs (Decidable (_ ∨ _))

def getEntity (entity rbdPoolName aliasRbdPoolName k8sClusterName radosNamespace : String) :
    Except String String := do
  let entity ←
    if hasDotOrUnderscore rbdPoolName ∨ aliasRbdPoolName ≠ "" then
      if aliasRbdPoolName = "" then
        .error ("please set the '--alias-rbd-data-pool-name' flag as the rbd data pool name " ++
          "contains '.' or '_'")
      else if hasDotOrUnderscore aliasRbdPoolName then
        .error "'--alias-rbd-data-pool-name' flag value should not contain '.' or '_'"
      else .ok (entity ++ "-" ++ k8sClusterName ++ "-" ++ aliasRbdPoolName)
    else .ok (entity ++ "-" ++ k8sClusterName ++ "-" ++ rbdPoolName)
  if radosNamespace ≠ "" then .ok (entity ++ "-" ++ radosNamespace) else .ok entity

def rbdCapsAndEntity (args : Args) (entity : String) (caps : String → Caps) :
    Except String (Caps × String) :=
  if args.restrictedAuthPermission.truthy then
    if args.rbdDataPoolName = "" then
      .error "mandatory flag not found, please set the '--rbd-data-pool-name' flag"
    else if args.k8sClusterName = "" then
      .error "mandatory flag not found, please set the '--k8s-cluster-name' flag"
    else do
      let entity ← getEntity entity args.rbdDataPoolName args.aliasRbdDataPoolName
        args.k8sClusterName args.radosNamespace
      if args.radosNamespace ≠ "" then
        .ok (caps ("profile rbd pool=" ++ args.rbdDataPoolName ++
          " namespace=" ++ args.radosNamespace), entity)
      else .ok (caps ("profile rbd pool=" ++ args.rbdDataPoolName), entity)
  else .ok (caps "profile rbd", entity)

def getRbdProvisionerCapsAndEntity (args : Args) : Except String (Caps × String) :=
  rbdCapsAndEntity args "client.csi-rbd-provisioner" (fun osd =>
    [("mon", "profile rbd, allow command 'osd blocklist'"),
      ("mgr", "allow rw"),
      ("osd", osd)])

def getRbdNodeCapsAndEntity (args : Args) : Except String (Caps × String) :=
  rbdCapsAndEntity args "client.csi-rbd-node" (fun osd =>
    [("mon", "profile rbd, allow command 'osd blocklist'"),
      ("osd", osd)])

def getDefaultUserCapsAndEntity (args : Args) : Except String (Caps × String) :=
  .ok ([("mon", "allow r, allow command quorum_status, allow command version"),
      ("mgr", "allow command config"),
      ("osd", "profile rbd-read-only, allow rwx pool=" ++ args.rgwPoolPrefix ++
        ".rgw.meta, allow r pool=.rgw.root, allow rw pool=" ++ args.rgwPoolPrefix ++
        ".rgw.control, allow rx pool=" ++ args.rgwPoolPrefix ++
        ".rgw.log, allow x pool=" ++ args.rgwPoolPrefix ++ ".rgw.buckets.index")],
    args.runAsUser)

structure Kind where
  base : String
  capsAndEntity : Args → Except String (Caps × String)

/-- In the order in which `get_caps_and_entity` looks for them. -/
def kinds : List Kind :=
  [⟨"client.csi-cephfs-provisioner", getCephfsProvisionerCapsAndEntity⟩,
    ⟨"client.csi-cephfs-node", getCephfsNodeCapsAndEntity⟩,
    ⟨"client.csi-rbd-provisioner", getRbdProvisionerCapsAndEntity⟩,
    ⟨"client.csi-rbd-node", getRbdNodeCapsAndEntity⟩,
    ⟨"client.healthchecker", getDefaultUserCapsAndEntity⟩]

/-- `base in user_name`: the kind is found by a substring of the name. -/
def Kind.matches (kind : Kind) (userName : String) : Bool :=
  kind.base.toList <:+: userName.toList

/-- Any other name than the base name switches restriction on, for the rest of the run. -/
def Kind.restrict (kind : Kind) (userName : String) (args : Args) : Args :=
  if kind.base ≠ userName then { args with restrictedAuthPermission := .bool true } else args

def getCapsAndEntity (args : Args) (userName : String) :
    Except String (Args × Caps × String) :=
  match kinds.find? (fun kind => kind.matches userName) with
  | some kind => do
    let args := kind.restrict userName args
    let capsEntity ← kind.capsAndEntity args
    .ok (args, capsEntity)
  | none =>
    .error ("no user found with user_name: " ++ userName ++
      ", get_caps_and_entity command failed.\n")

theorem bind_eq_ok {ε α β : Type} {x : Except ε α} {f : α → Except ε β} {b : β} :
    x >>= f = .ok b ↔ ∃ a, x = .ok a ∧ f a = .ok b := by
  cases x <;> simp [bind, Except.bind]

theorem find_kinds : ∀ userName ∈ kinds.map Kind.base,
    (kinds.find? (fun kind => kind.matches userName)).map Kind.base = some userName := by
  decide +kernel

theorem nodup_bases : (kinds.map Kind.base).Nodup := by decide

theorem getCapsAndEntity_kind {kind : Kind} (hkind : kind ∈ kinds) (args : Args) :
    getCapsAndEntity args kind.base = (kind.capsAndEntity args).map (Prod.mk args) := by
  have hfind := find_kinds kind.base (List.mem_map_of_mem hkind)
  obtain ⟨found, hfound, hbase⟩ := Option.map_eq_some_iff.mp hfind
  have hsame : found = kind :=
    List.inj_on_of_nodup_map nodup_bases (List.mem_of_find?_eq_some hfound) hkind hbase
  have hrestrict : kind.restrict kind.base args = args := if_neg (not_not_intro rfl)
  simp only [getCapsAndEntity, hfound, hsame, hrestrict]
  cases kind.capsAndEntity args <;> rfl

theorem of_getCapsAndEntity_kind {kind : Kind} (hkind : kind ∈ kinds) {args args' : Args}
    {result : Caps × String} (h : getCapsAndEntity args kind.base = .ok (args', result)) :
    args' = args ∧ kind.capsAndEntity args = .ok result := by
  rw [getCapsAndEntity_kind hkind] at h
  cases hcaps : kind.capsAndEntity args with
  | error msg => rw [hcaps] at h; cases h
  | ok capsEntity =>
    rw [hcaps] at h
    cases h
    exact ⟨rfl, rfl⟩

theorem prefix_of_cephfs {args : Args} {entity e : String} {caps : String → Caps} {c : Caps}
    (h : cephfsCapsAndEntity args entity caps = .ok (c, e)) : entity.toList <+: e.toList := by
  rw [cephfsCapsAndEntity] at h
  split_ifs at h
  · cases h
    simp
  · cases h
    simp
  · cases h
    exact List.prefix_refl _

theorem prefix_of_getEntity {entity rbdPoolName aliasRbdPoolName k8sClusterName radosNamespace
    e : String} (h : getEntity entity rbdPoolName aliasRbdPoolName k8sClusterName radosNamespace =
      .ok e) : entity.toList <+: e.toList := by
  rw [getEntity] at h
  split_ifs at h <;> cases h <;> simp [List.append_assoc]

theorem prefix_of_rbd {args : Args} {entity e : String} {caps : String → Caps} {c : Caps}
    (h : rbdCapsAndEntity args entity caps = .ok (c, e)) : entity.toList <+: e.toList := by
  rw [rbdCapsAndEntity] at h
  cases hentity : getEntity entity args.rbdDataPoolName args.aliasRbdDataPoolName
      args.k8sClusterName args.radosNamespace with
  | error msg =>
    rw [hentity] at h
    split_ifs at h <;> cases h
    exact List.prefix_refl _
  | ok found =>
    rw [hentity] at h
    have hfound := prefix_of_getEntity hentity
    split_ifs at h <;> cases h
    · exact hfound
    · exact hfound
    · exact List.prefix_refl _

theorem prefix_of_csi {kind : Kind} (hkind : kind ∈ kinds)
    (hcsi : kind.base ≠ "client.healthchecker") {args : Args} {c : Caps} {e : String}
    (h : kind.capsAndEntity args = .ok (c, e)) : kind.base.toList <+: e.toList := by
  simp only [kinds, List.mem_cons, List.not_mem_nil, or_false] at hkind
  rcases hkind with rfl | rfl | rfl | rfl | rfl
  · simp only [getCephfsProvisionerCapsAndEntity] at h
    exact prefix_of_cephfs h
  · simp only [getCephfsNodeCapsAndEntity] at h
    exact prefix_of_cephfs h
  · simp only [getRbdProvisionerCapsAndEntity] at h
    exact prefix_of_rbd h
  · simp only [getRbdNodeCapsAndEntity] at h
    exact prefix_of_rbd h
  · exact absurd rfl hcsi

end MigrateImageRepository.ExternalCluster.Users
