import Mathlib.Data.List.Nodup
import MigrateImageRepository.ExternalCluster.Additions
import MigrateImageRepository.ExternalCluster.Waiting

/-! Runs of `import-external-cluster.sh`.
Whatever the cluster answers and wherever a run stops, no object is changed. Where the values
that are pasted into YAML are plain, an import only adds what it was asked for, and one that
failed can be started again until it comes to its end. -/

namespace MigrateImageRepository.ExternalCluster.ImportRuns
open Dialogue Dialogue.Prog Additions ClusterImport Manifests Waiting

section Objects

variable (env : Env)

def onlyIf (keys : List String) (objs : List Object) : List Object :=
  if keys.all (fun key => env key != "") then objs else []

theorem onlyIf_of_ne {env : Env} {key : String} (h : env key ≠ "") (objs : List Object) :
    onlyIf env [key] objs = objs := if_pos (by simpa using h)

theorem onlyIf_of_eq {env : Env} {key : String} (h : env key = "") (objs : List Object) :
    onlyIf env [key] objs = [] := if_neg (by simp [h])

def groupObjects : List Object :=
  onlyIf env ["RADOS_NAMESPACE"] [(radosNamespaceCR env).asWritten] ++
    onlyIf env ["SUBVOLUME_GROUP"] [(subvolumeGroupCR env).asWritten]

def laterObjects (clusterIds : String × String) : List Object :=
  [monSecret env] ++ ([monEndpoints env] ++
    (onlyIf env ["CSI_RBD_NODE_SECRET_NAME", "CSI_RBD_NODE_SECRET"] [rbdNodeSecret env] ++
    (onlyIf env ["CSI_RBD_PROVISIONER_SECRET_NAME", "CSI_RBD_PROVISIONER_SECRET"]
      [rbdProvisionerSecret env] ++
    (onlyIf env ["RGW_ADMIN_OPS_USER_ACCESS_KEY", "RGW_ADMIN_OPS_USER_SECRET_KEY"]
      [rgwAdminOpsUser env] ++
    (onlyIf env ["CSI_CEPHFS_NODE_SECRET_NAME", "CSI_CEPHFS_NODE_SECRET"]
      [cephfsNodeSecret env] ++
    (onlyIf env ["CSI_CEPHFS_PROVISIONER_SECRET_NAME", "CSI_CEPHFS_PROVISIONER_SECRET"]
      [cephfsProvisionerSecret env] ++
    (onlyIf env ["RBD_POOL_NAME"]
      (if env "RBD_METADATA_EC_POOL_NAME" ≠ "" then
          [(ecRBDStorageClass env clusterIds.1).asWritten]
        else [(plainRBDStorageClass env clusterIds.1).asWritten]) ++
    onlyIf env ["CEPHFS_FS_NAME", "CEPHFS_POOL_NAME"]
      [(cephfsStorageClass env clusterIds.2).asWritten])))))))

def importedObjects (clusterIds : String × String) : List Object :=
  [clusterNamespace env] ++ (groupObjects env ++ laterObjects env clusterIds)

def plainIds : String × String := (namespaceOf env, namespaceOf env)

end Objects

section Plain

variable {env : Env}

def pastedKeys : List String :=
  ["RADOS_NAMESPACE", "SUBVOLUME_GROUP", "RBD_POOL_NAME", "RBD_METADATA_EC_POOL_NAME",
    "CEPHFS_FS_NAME", "CEPHFS_POOL_NAME"]

def secretNameKeys : List String :=
  ["CSI_RBD_NODE_SECRET_NAME", "CSI_RBD_PROVISIONER_SECRET_NAME", "CSI_CEPHFS_NODE_SECRET_NAME",
    "CSI_CEPHFS_PROVISIONER_SECRET_NAME"]

/-- Every value that the script pastes into YAML is plain, and none that is needed is empty. -/
structure YamlPlain (env : Env) : Prop where
  namespaceName : plainScalar (namespaceOf env) = true
  features : plainScalar (rbdFeatures env) = true
  pasted : ∀ key ∈ pastedKeys, env key = "" ∨ plainScalar (env key) = true
  secretName : ∀ key ∈ secretNameKeys, quotable (env key) = true
  blockPool : env "RADOS_NAMESPACE" ≠ "" → env "RBD_POOL_NAME" ≠ ""
  filesystem : env "SUBVOLUME_GROUP" ≠ "" → env "CEPHFS_FS_NAME" ≠ ""

instance (env : Env) : Decidable (YamlPlain env) :=
  decidable_of_iff (plainScalar (namespaceOf env) = true ∧ plainScalar (rbdFeatures env) = true ∧
      (∀ key ∈ pastedKeys, env key = "" ∨ plainScalar (env key) = true) ∧
      (∀ key ∈ secretNameKeys, quotable (env key) = true) ∧
      (env "RADOS_NAMESPACE" ≠ "" → env "RBD_POOL_NAME" ≠ "") ∧
      (env "SUBVOLUME_GROUP" ≠ "" → env "CEPHFS_FS_NAME" ≠ ""))
    ⟨fun h => ⟨h.1, h.2.1, h.2.2.1, h.2.2.2.1, h.2.2.2.2.1, h.2.2.2.2.2⟩,
      fun h => ⟨h.1, h.2, h.3, h.4, h.5, h.6⟩⟩

namespace YamlPlain

theorem of_ne (h : YamlPlain env) {key : String} (hkey : key ∈ pastedKeys) (hne : env key ≠ "") :
    plainScalar (env key) = true := (h.pasted key hkey).resolve_left hne

theorem command_plain (h : YamlPlain env) {kind name : String} (hname : plainWord name = true)
    (fields : List (String × String)) :
    (Source.command ⟨⟨kind, namespaceOf env, name⟩, fields⟩).Plain :=
  ⟨Or.inr (plainWord_of_plainScalar h.namespaceName), hname⟩

theorem clusterNamespace_plain (h : YamlPlain env) :
    (Source.command (clusterNamespace env)).Plain :=
  ⟨Or.inl rfl, plainWord_of_plainScalar h.namespaceName⟩

theorem driverSecret_plain (h : YamlPlain env) {nameKey : String} (hkey : nameKey ∈ secretNameKeys)
    (secretKey idField keyField : String) :
    (Source.command (driverSecret env nameKey secretKey idField keyField)).Plain :=
  h.command_plain (plainWord_append (by decide) (h.secretName nameKey hkey)) _

theorem groupCR_plain (h : YamlPlain env) {kind field key poolKey : String}
    (hkey : key ∈ pastedKeys) (hne : env key ≠ "") (hpoolKey : poolKey ∈ pastedKeys)
    (hpool : env poolKey ≠ "") :
    (Source.manifest ⟨kind, .bare (namespaceOf env), .bare (env key),
      [(field, .bare (env poolKey))]⟩).Plain := by
  have hname := h.of_ne hkey hne
  refine ⟨⟨Or.inr (plainWord_of_plainScalar h.namespaceName), plainWord_of_plainScalar hname⟩,
    h.namespaceName, hname, ?_⟩
  rw [List.forall_mem_singleton]
  exact h.of_ne hpoolKey hpool

theorem secretParameters_plain (h : YamlPlain env) (provisionerKey nodeKey : String)
    (hprovisioner : provisionerKey ∈ secretNameKeys) (hnode : nodeKey ∈ secretNameKeys) :
    ∀ field ∈ secretParameters env provisionerKey nodeKey, field.2.Plain := by
  have hquoted : ∀ key ∈ secretNameKeys, (Scalar.quoted ("rook-" ++ env key)).Plain := by
    intro key hkey
    rw [Scalar.Plain, quotable, String.toList_append, List.all_append]
    exact (Bool.and_eq_true _ _).mpr ⟨by decide, h.secretName key hkey⟩
  have hnamespace : (Scalar.bare (namespaceOf env)).Plain := h.namespaceName
  simp only [secretParameters, List.forall_mem_cons, List.not_mem_nil,
    false_imp_iff, implies_true, and_true]
  exact ⟨hquoted _ hprovisioner, hnamespace, hquoted _ hprovisioner, hnamespace,
    hquoted _ hnode, hnamespace⟩

theorem storageClass_plain {name : String} (hname : plainWord name = true)
    {fields : List (String × Scalar)} (hfields : ∀ field ∈ fields, field.2.Plain) :
    (Source.manifest ⟨"StorageClass", .constant "", .constant name, fields⟩).Plain :=
  ⟨⟨Or.inl rfl, hname⟩, trivial, trivial, hfields⟩

theorem rbdStorageClass_plain (h : YamlPlain env) {clusterId : String}
    (hid : plainScalar clusterId = true) {pools : List (String × Scalar)}
    (hpools : ∀ pool ∈ pools, pool.2.Plain) :
    (Source.manifest (rbdStorageClass env clusterId pools)).Plain := by
  have hsecrets := h.secretParameters_plain "CSI_RBD_PROVISIONER_SECRET_NAME"
    "CSI_RBD_NODE_SECRET_NAME" (by decide) (by decide)
  refine storageClass_plain (by decide) ?_
  simp only [List.forall_mem_append]
  refine ⟨⟨⟨⟨?_, hpools⟩, ?_⟩, hsecrets⟩, ?_⟩
  · simp [Scalar.Plain, hid]
  · simp [Scalar.Plain, h.features]
  · simp [Scalar.Plain]

theorem ecRBDStorageClass_plain (h : YamlPlain env) {clusterId : String}
    (hid : plainScalar clusterId = true) (hpool : env "RBD_POOL_NAME" ≠ "")
    (hmetadata : env "RBD_METADATA_EC_POOL_NAME" ≠ "") :
    (Source.manifest (ecRBDStorageClass env clusterId)).Plain :=
  h.rbdStorageClass_plain hid
    (by simp [Scalar.Plain, h.of_ne (by decide) hpool, h.of_ne (by decide) hmetadata])

theorem plainRBDStorageClass_plain (h : YamlPlain env) {clusterId : String}
    (hid : plainScalar clusterId = true) (hpool : env "RBD_POOL_NAME" ≠ "") :
    (Source.manifest (plainRBDStorageClass env clusterId)).Plain :=
  h.rbdStorageClass_plain hid (by simp [Scalar.Plain, h.of_ne (by decide) hpool])

theorem cephfsStorageClass_plain (h : YamlPlain env) {clusterId : String}
    (hid : plainScalar clusterId = true) (hfs : env "CEPHFS_FS_NAME" ≠ "")
    (hpool : env "CEPHFS_POOL_NAME" ≠ "") :
    (Source.manifest (cephfsStorageClass env clusterId)).Plain := by
  have hsecrets := h.secretParameters_plain "CSI_CEPHFS_PROVISIONER_SECRET_NAME"
    "CSI_CEPHFS_NODE_SECRET_NAME" (by decide) (by decide)
  refine storageClass_plain (by decide) ?_
  simp only [List.forall_mem_append]
  refine ⟨⟨?_, hsecrets⟩, ?_⟩
  · simp [Scalar.Plain, hid, h.of_ne (by decide) hfs, h.of_ne (by decide) hpool]
  · simp [Scalar.Plain]

end YamlPlain

end Plain

section Script

variable {σ : Type} {party : Party KubeOp KubeReply σ} {objects : σ → Objects} (env : Env)

theorem provides_whenSet {plain : Prop} (keys : List String) {d : Importer Unit}
    {objs : List Object}
    (h : (∀ key ∈ keys, env key ≠ "") → Provides party objects plain d objs) :
    Provides party objects plain (whenSet env keys d) (onlyIf env keys objs) :=
  provides_ite (fun hset => h (by simpa using hset)) (fun _ => provides_pure ())

theorem provides_checkEnvVars {plain : Prop} (laws : KubeLaws party objects) :
    Provides party objects plain (checkEnvVars env) [] := by
  rw [checkEnvVars]
  split_ifs
  all_goals first | exact provides_refuse laws _ | exact provides_pure ()

theorem provides_waitReady {plain : Prop} (laws : KubeLaws party objects) (ref : Ref) :
    Provides party objects plain (waitReady ref) [] :=
  (provides_quiet laws rfl).bind fun _ =>
    (provides_quiet laws rfl).bind fun ok => provides_orHalt ok

theorem provides_clusterIdOf {plain : Prop} (laws : KubeLaws party objects) (ref : Ref) :
    Provides party objects plain (clusterIdOf ref) [] := by
  refine (provides_quiet laws rfl).bind fun found => ?_
  cases found with
  | some clusterId => exact provides_pure clusterId
  | none => exact provides_fail _ []

theorem provides_groupClusterId {plain : Prop} (laws : KubeLaws party objects) (key : String)
    {createCR : Importer Unit} {objs : List Object}
    (h : env key ≠ "" → Provides party objects plain createCR objs) (ref : Ref) :
    Provides party objects plain (groupClusterId env key createCR ref) (onlyIf env [key] objs) := by
  rw [groupClusterId]
  by_cases hkey : env key = ""
  · rw [if_neg (not_not_intro hkey), onlyIf_of_eq hkey]
    exact provides_pure _
  · rw [if_pos hkey, onlyIf_of_ne hkey, ← List.append_nil objs]
    exact (h hkey).bind fun _ => (provides_waitReady laws ref).bind fun _ =>
      provides_clusterIdOf laws ref

theorem provides_createRadosNamespaceCR (laws : KubeLaws party objects)
    (hrados : env "RADOS_NAMESPACE" ≠ "") :
    Provides party objects (YamlPlain env) (createRadosNamespaceCR env)
      [(radosNamespaceCR env).asWritten] :=
  provides_createUnlessFound laws
    (fun h => h.groupCR_plain (by decide) hrados (by decide) (h.blockPool hrados)) _

theorem provides_createSubvolumeGroupCR (laws : KubeLaws party objects)
    (hgroup : env "SUBVOLUME_GROUP" ≠ "") :
    Provides party objects (YamlPlain env) (createSubvolumeGroupCR env)
      [(subvolumeGroupCR env).asWritten] :=
  provides_createUnlessFound laws
    (fun h => h.groupCR_plain (by decide) hgroup (by decide) (h.filesystem hgroup)) _

theorem provides_createClusterNamespace (laws : KubeLaws party objects) :
    Provides party objects (YamlPlain env) (createClusterNamespace env) [clusterNamespace env] :=
  provides_createUnlessFound laws (fun h => h.clusterNamespace_plain) _

theorem provides_importObjects (laws : KubeLaws party objects) {clusterIds : String × String}
    (hids : YamlPlain env → plainScalar clusterIds.1 = true ∧ plainScalar clusterIds.2 = true) :
    Provides party objects (YamlPlain env) (importObjects env clusterIds.1 clusterIds.2)
      (laterObjects env clusterIds) := by
  have hcreate : ∀ {src : Source} {existing : String}, (YamlPlain env → src.Plain) →
      Provides party objects (YamlPlain env) (createUnlessFound src existing) [src.asWritten] :=
    fun hsrc => provides_createUnlessFound laws hsrc _
  have hdriver := fun nameKey (hkey : nameKey ∈ secretNameKeys) secretKey idField keyField
    existing => provides_createUnlessFound laws
      (fun h : YamlPlain env => h.driverSecret_plain hkey secretKey idField keyField) existing
  rw [importObjects]
  refine (hcreate fun h => h.command_plain (by decide) _).bind fun _ => ?_
  refine (hcreate fun h => h.command_plain (by decide) _).bind fun _ => ?_
  refine (provides_whenSet env _ fun _ => hdriver _ (by decide) _ _ _ _).bind fun _ => ?_
  refine (provides_whenSet env _ fun _ => hdriver _ (by decide) _ _ _ _).bind fun _ => ?_
  refine (provides_whenSet env _ fun _ => hcreate fun h => h.command_plain (by decide) _).bind
    fun _ => ?_
  refine (provides_whenSet env _ fun _ => hdriver _ (by decide) _ _ _ _).bind fun _ => ?_
  refine (provides_whenSet env _ fun _ => hdriver _ (by decide) _ _ _ _).bind fun _ => ?_
  refine (provides_whenSet env _ fun hset => ?_).bind fun _ =>
    provides_whenSet env _ fun hset => ?_
  · have hpool := hset "RBD_POOL_NAME" (by simp)
    exact provides_ite
      (fun hmetadata => hcreate fun h => h.ecRBDStorageClass_plain (hids h).1 hpool hmetadata)
      (fun _ => hcreate fun h => h.plainRBDStorageClass_plain (hids h).1 hpool)
  · exact hcreate fun h =>
      h.cephfsStorageClass_plain (hids h).2 (hset _ (by simp)) (hset _ (by simp))

theorem importClusterID_plain (hrados : env "RADOS_NAMESPACE" = "")
    (hgroup : env "SUBVOLUME_GROUP" = "") : importClusterID env = pure (plainIds env) := by
  rw [importClusterID, groupClusterId, groupClusterId, if_neg (not_not_intro hrados),
    if_neg (not_not_intro hgroup)]
  rfl

theorem provides_importScript (laws : KubeLaws party objects)
    (hrados : env "RADOS_NAMESPACE" = "") (hgroup : env "SUBVOLUME_GROUP" = "") :
    Provides party objects (YamlPlain env) (importScript env)
      (importedObjects env (plainIds env)) := by
  have hids := importClusterID_plain env hrados hgroup
  have hnone : groupObjects env = [] := by
    rw [groupObjects, onlyIf_of_eq hrados, onlyIf_of_eq hgroup, List.append_nil]
  rw [importScript, hids, importedObjects, hnone]
  exact (provides_checkEnvVars env laws).bind fun _ =>
    (provides_createClusterNamespace env laws).bind fun _ =>
      provides_importObjects env laws fun h => ⟨h.namespaceName, h.namespaceName⟩

theorem stops_groupClusterId (laws : KubeLaws party objects) (hsh : ShNeedsDone party)
    {plain : Prop} {key : String} (hkey : env key ≠ "") {createCR : Importer Unit}
    {objs : List Object} (h : Provides party objects plain createCR objs) (ref : Ref) :
    Stops party objects plain (groupClusterId env key createCR ref) objs := by
  have hwait : Stops party objects plain (waitReady ref) [] := by
    refine fun os => (leads_waitReady laws hsh ref os).mono (fun _ _ h => h) ?_
    rintro _ rfl _
    exact Added.refl [] _
  rw [groupClusterId, if_pos hkey, ← List.append_nil objs]
  exact h.stops_bind fun _ => hwait.bind

theorem stops_importClusterID (laws : KubeLaws party objects) (hsh : ShNeedsDone party)
    (hgroup : env "RADOS_NAMESPACE" ≠ "" ∨ env "SUBVOLUME_GROUP" ≠ "") :
    Stops party objects (YamlPlain env) (importClusterID env) (groupObjects env) := by
  by_cases hrados : env "RADOS_NAMESPACE" = ""
  · have hkey := hgroup.resolve_left (not_not_intro hrados)
    have hsecond := stops_groupClusterId env laws hsh hkey
      (provides_createSubvolumeGroupCR env laws hkey) (subvolumeGroupCR env).asWritten.ref
    rw [groupObjects, onlyIf_of_ne hkey]
    refine Provides.stops_bind ?_ fun _ => hsecond.bind
    exact provides_groupClusterId env laws _ (provides_createRadosNamespaceCR env laws) _
  · have hfirst := stops_groupClusterId env laws hsh hrados
      (provides_createRadosNamespaceCR env laws hrados) (radosNamespaceCR env).asWritten.ref
    rw [groupObjects, onlyIf_of_ne hrados]
    exact hfirst.bind.mono (List.subset_append_left _ _)

theorem stops_importScript (laws : KubeLaws party objects) (hsh : ShNeedsDone party)
    (hgroup : env "RADOS_NAMESPACE" ≠ "" ∨ env "SUBVOLUME_GROUP" ≠ "") :
    Stops party objects (YamlPlain env) (importScript env)
      ([clusterNamespace env] ++ groupObjects env) :=
  (provides_checkEnvVars env laws).stops_bind fun _ =>
    (provides_createClusterNamespace env laws).stops_bind fun _ =>
      (stops_importClusterID env laws hsh hgroup).bind

/-- What an import with these variables may add. One that waits for a group does not get to
the other objects. -/
def askedObjects : List Object :=
  if env "RADOS_NAMESPACE" = "" ∧ env "SUBVOLUME_GROUP" = "" then
    importedObjects env (plainIds env)
  else [clusterNamespace env] ++ groupObjects env

theorem added_of_run (laws : KubeLaws party objects) (hsh : ShNeedsDone party)
    (hplain : YamlPlain env) (s : σ) :
    Added (askedObjects env) (objects s) (objects ((importScript env).run party s).2) := by
  rw [askedObjects]
  split
  · rename_i hnone
    exact (provides_importScript env laws hnone.1 hnone.2).added_of_run hplain s
  · rename_i hgroup
    exact (stops_importScript env laws hsh (not_and_or.mp hgroup)).provides.added_of_run hplain s

theorem kept_of_run (laws : KubeLaws party objects) {α : Type} (d : Importer α) {s : σ}
    {ref : Ref} {fields : List (String × String)} (h : objects s ref = some fields) :
    objects (d.run party s).2 ref = some fields := by
  refine Ends.state (ends_invariant (fun op s (hs : objects s ref = some fields) => ?_) d h)
  cases op with
  | create src => exact laws.create_kept src s ref fields hs
  | _ => rw [laws.same_objects _ s rfl, hs]

end Script

section Sequences

variable {σ : Type} {party : Party KubeOp KubeReply σ} {objects : σ → Objects}

def afterImports (party : Party KubeOp KubeReply σ) (runs : List Env) (s : σ) : σ :=
  runs.foldl (fun s env => ((importScript env).run party s).2) s

def AskedFor (runs : List Env) (ref : Ref) (fields : List (String × String)) : Prop :=
  ∃ env ∈ runs, ∃ obj ∈ askedObjects env, obj.ref = ref ∧ obj.fields = fields

structure OnlyAdded (runs : List Env) (os os' : Objects) : Prop where
  kept : ∀ ref fields, os ref = some fields → os' ref = some fields
  added : (∀ env ∈ runs, YamlPlain env) → ∀ ref fields, os ref = none →
    os' ref = some fields → AskedFor runs ref fields

theorem AskedFor.of_subset {runs runs' : List Env} {ref : Ref} {fields : List (String × String)}
    (h : AskedFor runs ref fields) (hsub : runs ⊆ runs') : AskedFor runs' ref fields := by
  obtain ⟨env, henv, hasked⟩ := h
  exact ⟨env, hsub henv, hasked⟩

theorem onlyAdded_of_run (laws : KubeLaws party objects) (hsh : ShNeedsDone party) (env : Env)
    (s : σ) : OnlyAdded [env] (objects s) (objects ((importScript env).run party s).2) where
  kept _ _ hsome := kept_of_run laws _ hsome
  added hplain ref fields hnone hsome := by
    rcases added_of_run env laws hsh (hplain env (by simp)) s ref with
      hsame | ⟨-, obj, hobj, href, hadded⟩
    · rw [hsame, hnone] at hsome
      cases hsome
    · rw [hadded, Option.some_inj] at hsome
      exact ⟨env, List.mem_singleton_self env, obj, hobj, href, hsome⟩

theorem OnlyAdded.append {runs runs' : List Env} {os os' os'' : Objects}
    (h : OnlyAdded runs os os') (h' : OnlyAdded runs' os' os'') :
    OnlyAdded (runs ++ runs') os os'' where
  kept ref fields hsome := h'.kept ref fields (h.kept ref fields hsome)
  added hplain ref fields hnone hsome := by
    obtain ⟨hplain, hplain'⟩ := List.forall_mem_append.mp hplain
    cases hmid : os' ref with
    | none =>
      have hasked := h'.added hplain' ref fields hmid hsome
      exact hasked.of_subset (List.subset_append_right runs runs')
    | some fields' =>
      have hkept := h'.kept ref fields' hmid
      rw [hsome, Option.some_inj] at hkept
      exact (h.added hplain ref fields hnone (hkept ▸ hmid)).of_subset
        (List.subset_append_left runs runs')

end Sequences

section Resumed

variable {σ : Type} {party : Party KubeOp KubeReply σ} {objects : σ → Objects} (env : Env)

structure Installed (objs : List Object) (os os' : Objects) : Prop where
  installed : ∀ obj ∈ objs, os' obj.ref = some obj.fields
  other : ∀ ref, ref ∉ objs.map Object.ref → os' ref = os ref

theorem installed_of_added {objs : List Object} (hnodup : (objs.map Object.ref).Nodup)
    {os os' : Objects} (hfree : ∀ obj ∈ objs, ∀ fields, os obj.ref = some fields →
      fields = obj.fields) (hadded : Added objs os os') (hpresent : Present objs os') :
    Installed objs os os' where
  installed obj hobj := by
    obtain ⟨fields, hfields⟩ := Option.isSome_iff_exists.mp (hpresent obj hobj)
    rcases hadded obj.ref with hsame | ⟨-, obj', hobj', href, hnew⟩
    · rw [hsame] at hfields ⊢
      rw [hfields, hfree obj hobj fields hfields]
    · rw [hnew, List.inj_on_of_nodup_map hnodup hobj' hobj href]
  other ref href := by
    rcases hadded ref with hsame | ⟨-, obj, hobj, rfl, -⟩
    · exact hsame
    · exact absurd (List.mem_map_of_mem hobj) href

theorem added_afterImports (laws : KubeLaws party objects) (hplain : YamlPlain env)
    (hrados : env "RADOS_NAMESPACE" = "") (hgroup : env "SUBVOLUME_GROUP" = "") (attempts : ℕ)
    (s : σ) : Added (importedObjects env (plainIds env)) (objects s)
      (objects (afterImports party (List.replicate attempts env) s)) := by
  have hprovides := provides_importScript env laws hrados hgroup
  induction attempts generalizing s with
  | zero => exact Added.refl _ _
  | succ attempts ih =>
    rw [List.replicate_succ]
    exact ((hprovides.added_of_run hplain s).append (ih _)).mono (by simp)

/-- However many imports failed before and wherever, one that comes to its end has created
exactly what was asked for. -/
theorem import_resumed (laws : KubeLaws party objects) (hplain : YamlPlain env)
    (hrados : env "RADOS_NAMESPACE" = "") (hgroup : env "SUBVOLUME_GROUP" = "")
    (hnodup : ((importedObjects env (plainIds env)).map Object.ref).Nodup) (s : σ)
    (hfree : ∀ obj ∈ importedObjects env (plainIds env), ∀ fields,
      objects s obj.ref = some fields → fields = obj.fields) (attempts : ℕ) :
    Ends party (importScript env) (afterImports party (List.replicate attempts env) s)
      (fun _ s' => Installed (importedObjects env (plainIds env)) (objects s) (objects s'))
      (fun _ _ => True) := by
  have hbefore := added_afterImports env laws hplain hrados hgroup attempts s
  refine (provides_importScript env laws hrados hgroup _ _ rfl).mono ?_ (fun _ _ _ => trivial)
  intro _ s' hends
  obtain ⟨hadded, hpresent⟩ := hends hplain
  exact installed_of_added hnodup hfree ((hbefore.append hadded).mono (by simp)) hpresent

end Resumed

theorem yamlPlain_replicapoolVars : YamlPlain (envOf replicapoolVars) := by decide +kernel

theorem import_resumed_replicapool :
    Ends plainKube (importScript (envOf replicapoolVars))
      (afterImports plainKube (List.replicate 2 (envOf replicapoolVars)) [])
      (fun _ s' => Installed
        (importedObjects (envOf replicapoolVars) (plainIds (envOf replicapoolVars)))
        (objectsIn []) (objectsIn s'))
      (fun _ _ => True) :=
  import_resumed _ plainKube_reliable.toKubeLaws yamlPlain_replicapoolVars (by decide) (by decide)
    (by decide +kernel) [] (fun _ _ _ h => nomatch h) 2

end MigrateImageRepository.ExternalCluster.ImportRuns
