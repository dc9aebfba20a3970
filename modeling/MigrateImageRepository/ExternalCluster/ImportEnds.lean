import MigrateImageRepository.ExternalCluster.ImportRuns

/-! When an import comes to its end.
An import that asks for a RADOS namespace or a subvolume group always stops where it waits for
it. Any other import with plain values and valid names ends on a cluster that answers, if its
variables are set. -/

namespace MigrateImageRepository.ExternalCluster.ImportEnds
open Dialogue Dialogue.Prog Additions ClusterImport ImportRuns Manifests

/-- With a RADOS namespace or a subvolume group no import comes to its end: the shell refuses
the loop that waits for it. At most the namespaces and the group are created. -/
theorem import_stuck {σ : Type} {party : Party KubeOp KubeReply σ} {objects : σ → Objects}
    (env : Env) (laws : KubeLaws party objects) (hsh : ShNeedsDone party)
    (hgroup : env "RADOS_NAMESPACE" ≠ "" ∨ env "SUBVOLUME_GROUP" ≠ "") (s : σ) :
    Ends party (importScript env) s (fun _ _ => False) (fun _ s' => YamlPlain env →
      Added ([clusterNamespace env] ++ groupObjects env) (objects s) (objects s')) :=
  stops_importScript env laws hsh hgroup (objects s) s rfl

theorem import_stuck_blue :
    Ends plainKube (importScript (envOf (("RADOS_NAMESPACE", "blue") :: replicapoolVars))) []
      (fun _ _ => False)
      (fun _ s' => YamlPlain (envOf (("RADOS_NAMESPACE", "blue") :: replicapoolVars)) → Added
        ([clusterNamespace (envOf (("RADOS_NAMESPACE", "blue") :: replicapoolVars))] ++
          groupObjects (envOf (("RADOS_NAMESPACE", "blue") :: replicapoolVars)))
        (objectsIn []) (objectsIn s')) :=
  import_stuck _ plainKube_reliable.toKubeLaws plainKube_needsDone (Or.inl (by decide)) []

section Completes

variable {σ : Type} {party : Party KubeOp KubeReply σ} {objects : σ → Objects} (env : Env)

structure EnvComplete : Prop where
  features : "layering".toList <:+: (rbdFeatures env).toList
  fsid : env "ROOK_EXTERNAL_FSID" ≠ ""
  monData : env "ROOK_EXTERNAL_CEPH_MON_DATA" ≠ ""
  user : adminSecret env = "admin-secret" →
    env "ROOK_EXTERNAL_USER_SECRET" ≠ "" ∧ env "ROOK_EXTERNAL_USERNAME" ≠ ""
  admin : adminSecret env ≠ "admin-secret" → env "ROOK_EXTERNAL_USER_SECRET" = ""

theorem namespaceOf_ne : namespaceOf env ≠ "" := by
  rw [namespaceOf]
  split
  · decide
  · assumption

theorem rbdFeatures_ne : rbdFeatures env ≠ "" := by
  rw [rbdFeatures]
  split
  · decide
  · assumption

theorem checkEnvVars_eq : EnvComplete env ∧ checkEnvVars env = pure () ∨
    ¬ EnvComplete env ∧ ∃ msg, checkEnvVars env = refuse msg := by
  rw [checkEnvVars, if_neg (namespaceOf_ne env)]
  by_cases hfeatures : "layering".toList <:+: (rbdFeatures env).toList
  · rw [if_neg (fun h => h.elim (rbdFeatures_ne env) (fun hno => hno hfeatures))]
    split_ifs with hfsid hmon hsecret huser hboth
    · exact Or.inr ⟨fun h => h.fsid hfsid, _, rfl⟩
    · exact Or.inr ⟨fun h => h.monData hmon, _, rfl⟩
    · exact Or.inr ⟨fun h => (h.user hsecret.1).1 hsecret.2, _, rfl⟩
    · exact Or.inr ⟨fun h => (h.user huser.1).2 huser.2, _, rfl⟩
    · exact Or.inr ⟨fun h => hboth.2 (h.admin hboth.1), _, rfl⟩
    · refine Or.inl ⟨⟨hfeatures, hfsid, hmon, ?_, ?_⟩, rfl⟩
      · exact fun h => ⟨fun hempty => hsecret ⟨h, hempty⟩, fun hempty => huser ⟨h, hempty⟩⟩
      · exact fun h => not_not.mp (fun hne => hboth ⟨h, hne⟩)
  · rw [if_pos (Or.inr hfeatures)]
    exact Or.inr ⟨fun h => hfeatures h.features, _, rfl⟩

theorem leads_importScript_refused (laws : KubeLaws party objects) (h : ¬ EnvComplete env)
    (os : Objects) :
    Leads party objects (importScript env) os (fun _ _ => False) (fun os' => os' = os) := by
  obtain ⟨-, msg, hrefuse⟩ := (checkEnvVars_eq env).resolve_left (fun hc => h hc.1)
  rintro s rfl
  rw [importScript, hrefuse, refuse, ends_bind, ends_bind, ends_ask, ends_fail]
  exact laws.same_objects _ s rfl

/-- The values are plain, and the names made from them are names for Kubernetes. -/
structure Importable : Prop extends YamlPlain env where
  namespaceValid : validName 63 (namespaceOf env) = true
  secretValid : ∀ key ∈ secretNameKeys, env key ≠ "" → validName 253 ("rook-" ++ env key) = true

instance (env : Env) : Decidable (Importable env) :=
  decidable_of_iff (YamlPlain env ∧ validName 63 (namespaceOf env) = true ∧
      ∀ key ∈ secretNameKeys, env key ≠ "" → validName 253 ("rook-" ++ env key) = true)
    ⟨fun h => ⟨h.1, h.2.1, h.2.2⟩, fun h => ⟨h.toYamlPlain, h.namespaceValid, h.secretValid⟩⟩

def NamespaceThere (os : Objects) : Prop := (os (clusterNamespace env).ref).isSome

/-- Where the namespace is there, the program comes to its end. -/
def Completes (party : Party KubeOp KubeReply σ) (objects : σ → Objects) {α : Type}
    (d : Importer α) : Prop :=
  ∀ os, NamespaceThere env os →
    Leads party objects d os (fun _ os' => NamespaceThere env os') (fun _ => False)

theorem completes_pure {α : Type} (a : α) : Completes env party objects (pure a) :=
  fun _ h => leads_pure h

variable {env} in
theorem Completes.bind {α β : Type} {d : Importer α} {f : α → Importer β}
    (h : Completes env party objects d) (hf : ∀ a, Completes env party objects (f a)) :
    Completes env party objects (d >>= f) :=
  fun os hos => (h os hos).bind fun a os' hos' => hf a os' hos'

theorem leads_createUnlessFound (laws : KubeReliable party objects) {src : Source}
    (hplain : src.Plain) (hvalid : src.asWritten.ref.Valid) (existing : String) (os : Objects)
    (hns : HasNamespace os src.asWritten.ref) :
    Leads party objects (createUnlessFound src existing) os
      (fun _ os' => Added [src.asWritten] os os' ∧ (os' src.asWritten.ref).isSome)
      (fun _ => False) := by
  rintro s rfl
  have hprovides : Provides party objects True (createUnlessFound src existing)
      [src.asWritten] := provides_createUnlessFound laws.toKubeLaws (fun _ => hplain) existing
  have hget := laws.same_objects (.get src.asWritten.ref) s rfl
  have hends : Ends party (createUnlessFound src existing) s (fun _ _ => True)
      (fun _ _ => False) := by
    rw [createUnlessFound, ends_bind, ends_ask]
    cases hfound : (party (.get src.asWritten.ref) s).1 with
    | true => rw [if_pos rfl, ends_ask]; trivial
    | false =>
      have hnone : objects s src.asWritten.ref = none := by
        rw [← Option.not_isSome_iff_eq_none]
        intro hsome
        rw [laws.get_works _ s hplain.ref hsome] at hfound
        cases hfound
      rw [if_neg Bool.false_ne_true, ends_bind, ends_ask,
        laws.create_works src _ hplain hvalid (hget.symm ▸ hnone) (hget.symm ▸ hns), orHalt,
        if_pos rfl, ends_pure]
      trivial
  refine ((hprovides _ s rfl).and hends).mono ?_ (fun _ _ h => h.2)
  exact fun _ _ h => ⟨(h.1 trivial).1, present_singleton.mp (h.1 trivial).2⟩

theorem completes_createUnlessFound (laws : KubeReliable party objects) {src : Source}
    (hplain : src.Plain) (hvalid : src.asWritten.ref.Valid)
    (hns : src.asWritten.ref.namespaceName = "" ∨
      src.asWritten.ref.namespaceName = namespaceOf env) (existing : String) :
    Completes env party objects (createUnlessFound src existing) := by
  intro os hos
  have hhas : HasNamespace os src.asWritten.ref := hns.imp id (fun h => by rw [h]; exact hos)
  exact (leads_createUnlessFound laws hplain hvalid existing os hhas).mono
    (fun _ _ h => h.1.isSome hos) (fun _ h => h)

theorem completes_command (laws : KubeReliable party objects) (h : Importable env)
    {kind name : String} (hkind : kind ≠ "Namespace") (hplain : plainWord name = true)
    (hvalid : validName 253 name = true) (fields : List (String × String)) (existing : String) :
    Completes env party objects
      (createUnlessFound (.command ⟨⟨kind, namespaceOf env, name⟩, fields⟩) existing) :=
  completes_createUnlessFound env laws (h.command_plain hplain fields)
    (Ref.Valid.of_kind hkind (Or.inr h.namespaceValid) hvalid) (Or.inr rfl) _

theorem completes_driverSecret (laws : KubeReliable party objects) (h : Importable env)
    {nameKey : String} (hkey : nameKey ∈ secretNameKeys) (hne : env nameKey ≠ "")
    (secretKey idField keyField existing : String) :
    Completes env party objects
      (createUnlessFound (.command (driverSecret env nameKey secretKey idField keyField))
        existing) :=
  completes_command env laws h (by decide)
    (plainWord_append (by decide) (h.secretName nameKey hkey)) (h.secretValid nameKey hkey hne) _ _

theorem completes_whenSet (keys : List String) {d : Importer Unit}
    (h : (∀ key ∈ keys, env key ≠ "") → Completes env party objects d) :
    Completes env party objects (whenSet env keys d) := by
  rw [whenSet]
  split
  · rename_i hset
    exact h (by simpa using hset)
  · exact completes_pure env ()

theorem completes_storageClass (laws : KubeReliable party objects) {name : String}
    {fields : List (String × Scalar)}
    (hplain : (Source.manifest ⟨"StorageClass", .constant "", .constant name, fields⟩).Plain)
    (hvalid : validName 253 name = true) (existing : String) :
    Completes env party objects (createUnlessFound
      (.manifest ⟨"StorageClass", .constant "", .constant name, fields⟩) existing) :=
  completes_createUnlessFound env laws hplain
    (Ref.Valid.of_kind (by decide : "StorageClass" ≠ "Namespace") (Or.inl rfl) hvalid)
    (Or.inl rfl) _

theorem completes_importObjects (laws : KubeReliable party objects) (h : Importable env)
    {clusterIdRBD clusterIdCephFS : String} (hrbd : plainScalar clusterIdRBD = true)
    (hcephfs : plainScalar clusterIdCephFS = true) :
    Completes env party objects (importObjects env clusterIdRBD clusterIdCephFS) := by
  have hcommand := @completes_command _ _ _ env laws h
  have hdriver := @completes_driverSecret _ _ _ env laws h
  rw [importObjects]
  refine Completes.bind ?_ fun _ => Completes.bind ?_ fun _ => Completes.bind ?_ fun _ =>
    Completes.bind ?_ fun _ => Completes.bind ?_ fun _ => Completes.bind ?_ fun _ =>
    Completes.bind ?_ fun _ => Completes.bind ?_ fun _ => ?_
  · exact hcommand (by decide) (by decide) (by decide) _ _
  · exact hcommand (by decide) (by decide) (by decide) _ _
  · exact completes_whenSet env _ fun hset => hdriver (by decide) (hset _ (by simp)) _ _ _ _
  · exact completes_whenSet env _ fun hset => hdriver (by decide) (hset _ (by simp)) _ _ _ _
  · exact completes_whenSet env _ fun _ => hcommand (by decide) (by decide) (by decide) _ _
  · exact completes_whenSet env _ fun hset => hdriver (by decide) (hset _ (by simp)) _ _ _ _
  · exact completes_whenSet env _ fun hset => hdriver (by decide) (hset _ (by simp)) _ _ _ _
  · refine completes_whenSet env _ fun hset => ?_
    have hpool := hset "RBD_POOL_NAME" (by simp)
    split
    · rename_i hmetadata
      exact completes_storageClass env laws (h.ecRBDStorageClass_plain hrbd hpool hmetadata)
        (by decide) _
    · exact completes_storageClass env laws (h.plainRBDStorageClass_plain hrbd hpool) (by decide) _
  · exact completes_whenSet env _ fun hset => completes_storageClass env laws
      (h.cephfsStorageClass_plain hcephfs (hset _ (by simp)) (hset _ (by simp))) (by decide) _

theorem leads_importScript_completes (laws : KubeReliable party objects) (h : EnvComplete env)
    (himportable : Importable env) (hrados : env "RADOS_NAMESPACE" = "")
    (hgroup : env "SUBVOLUME_GROUP" = "") (os : Objects) :
    Leads party objects (importScript env) os (fun _ _ => True) (fun _ => False) := by
  obtain ⟨-, hcheck⟩ := (checkEnvVars_eq env).resolve_right (fun hc => hc.1 h)
  rw [importScript, hcheck, importClusterID_plain env hrados hgroup]
  have hvalid : (clusterNamespace env).ref.Valid := ⟨Or.inl rfl, himportable.namespaceValid⟩
  have hnamespace := leads_createUnlessFound laws himportable.clusterNamespace_plain hvalid
    ("cluster namespace " ++ namespaceOf env ++ " already exists") os (Or.inl rfl)
  refine hnamespace.bind fun _ os₁ hthere => ?_
  have hid := himportable.namespaceName
  exact (completes_importObjects env laws himportable hid hid os₁ hthere.2).mono
    (fun _ _ _ => trivial) (fun _ h => h)

/-- On a cluster whose commands work, an import with plain values and valid names comes to its
end just when the variables are complete and neither a RADOS namespace nor a subvolume group
is asked for. -/
theorem import_completes_iff (laws : KubeReliable party objects) (hsh : ShNeedsDone party)
    (himportable : Importable env) (s : σ) :
    (∃ s', (importScript env).run party s = (.ok (), s')) ↔
      EnvComplete env ∧ env "RADOS_NAMESPACE" = "" ∧ env "SUBVOLUME_GROUP" = "" := by
  constructor
  · rintro ⟨s', hrun⟩
    refine ⟨?_, ?_⟩
    · by_contra hincomplete
      exact (leads_importScript_refused env laws.toKubeLaws hincomplete _ s rfl).of_run hrun
    · by_contra hgroup
      rw [not_and_or] at hgroup
      exact (stops_importScript env laws.toKubeLaws hsh hgroup _ s rfl).of_run hrun
  · rintro ⟨hcomplete, hrados, hgroup⟩
    have hends := leads_importScript_completes env laws hcomplete himportable hrados hgroup _ s
      rfl
    obtain ⟨_, s', hrun, -⟩ := hends.exists_run
    exact ⟨s', hrun⟩

end Completes

theorem importable_replicapoolVars : Importable (envOf replicapoolVars) := by decide +kernel

theorem import_completes_iff_replicapool :
    (∃ s', (importScript (envOf replicapoolVars)).run plainKube [] = (.ok (), s')) ↔
      EnvComplete (envOf replicapoolVars) ∧ envOf replicapoolVars "RADOS_NAMESPACE" = "" ∧
        envOf replicapoolVars "SUBVOLUME_GROUP" = "" :=
  import_completes_iff _ plainKube_reliable plainKube_needsDone importable_replicapoolVars []

end MigrateImageRepository.ExternalCluster.ImportEnds
