import Mathlib.Data.List.Infix
import Mathlib.Logic.Function.Basic
import MigrateImageRepository.Dialogue
import MigrateImageRepository.ExternalCluster.Manifests
import MigrateImageRepository.Rows

/-! `import-external-cluster.sh`: the other end of an export.
The script reads the exported variables and creates in Kubernetes what is missing there.
It stops at the first command that fails. The cluster is any party that answers; the laws
say that only `kubectl create` adds an object, that nothing is replaced, and what is added
where the values are plain. -/

namespace MigrateImageRepository.ExternalCluster.ClusterImport
open Dialogue Dialogue.Prog Manifests Rows

/-- The variables of the shell. A variable that is not set is empty. -/
abbrev Env := String → String

inductive KubeOp where
  | echo (msg : String)
  | get (ref : Ref)
  | create (src : Source)
  | phase (ref : Ref)
  | clusterId (ref : Ref)
  | timeoutSh (words : List (List Char))

/-- Exit statuses are `true` for success. The phase is read in a pipeline, so that its
command may fail unseen. -/
@[reducible] def KubeReply : KubeOp → Type
  | .echo _ => Unit
  | .get _ => Bool
  | .create _ => Bool
  | .phase _ => String
  | .clusterId _ => Option String
  | .timeoutSh _ => Bool

inductive Halt where
  | exitOne
  | commandFailed
deriving DecidableEq

abbrev Importer (α : Type) := Prog KubeOp KubeReply Halt α

abbrev echo (msg : String) : Importer Unit := ask (KubeOp.echo msg)

/-- `set -e` -/
def orHalt (ok : Bool) : Importer Unit := if ok then pure () else fail .commandFailed

/-- `if ! kubectl get ... then ... create ... else echo ... fi` -/
def createUnlessFound (src : Source) (existing : String) : Importer Unit := do
  let found ← ask (KubeOp.get src.asWritten.ref)
  if found then echo existing
  else
    let created ← ask (KubeOp.create src)
    orHalt created

def refuse (msg : String) : Importer Unit := do
  echo msg
  fail .exitOne

section Variables

variable (env : Env)

def namespaceOf : String := if env "NAMESPACE" = "" then "rook-ceph-external" else env "NAMESPACE"

def rbdFeatures : String :=
  if env "ROOK_RBD_FEATURES" = "" then "layering" else env "ROOK_RBD_FEATURES"

def adminSecret : String :=
  if env "ROOK_EXTERNAL_ADMIN_SECRET" = "" then "admin-secret"
  else env "ROOK_EXTERNAL_ADMIN_SECRET"

def checkEnvVars : Importer Unit :=
  if namespaceOf env = "" then refuse "Please populate the environment variable NAMESPACE"
  else if rbdFeatures env = "" ∨ ¬ "layering".toList <:+: (rbdFeatures env).toList then
    refuse ("Please populate the environment variable ROOK_RBD_FEATURES\n" ++
      "For a kernel earlier than 5.4 use a value of 'layering'; for 5.4 or later\n" ++
      "use 'layering,fast-diff,object-map,deep-flatten,exclusive-lock'")
  else if env "ROOK_EXTERNAL_FSID" = "" then
    refuse "Please populate the environment variable ROOK_EXTERNAL_FSID"
  else if env "ROOK_EXTERNAL_CEPH_MON_DATA" = "" then
    refuse "Please populate the environment variable ROOK_EXTERNAL_CEPH_MON_DATA"
  else if adminSecret env = "admin-secret" ∧ env "ROOK_EXTERNAL_USER_SECRET" = "" then
    refuse "Please populate the environment variable ROOK_EXTERNAL_USER_SECRET"
  else if adminSecret env = "admin-secret" ∧ env "ROOK_EXTERNAL_USERNAME" = "" then
    refuse "Please populate the environment variable ROOK_EXTERNAL_USERNAME"
  else if adminSecret env ≠ "admin-secret" ∧ env "ROOK_EXTERNAL_USER_SECRET" ≠ "" then
    refuse ("Providing both ROOK_EXTERNAL_ADMIN_SECRET and ROOK_EXTERNAL_USER_SECRET " ++
      "is not supported, choose one only.")
  else pure ()

def clusterNamespace : Object := ⟨⟨"Namespace", "", namespaceOf env⟩, []⟩

def createClusterNamespace : Importer Unit :=
  createUnlessFound (.command (clusterNamespace env))
    ("cluster namespace " ++ namespaceOf env ++ " already exists")

def radosNamespaceCR : Manifest :=
  ⟨"CephBlockPoolRadosNamespace", .bare (namespaceOf env), .bare (env "RADOS_NAMESPACE"),
    [("blockPoolName", .bare (env "RBD_POOL_NAME"))]⟩

def createRadosNamespaceCR : Importer Unit :=
  createUnlessFound (.manifest (radosNamespaceCR env))
    ("radosnamespace " ++ env "RADOS_NAMESPACE" ++ " already exists")

def subvolumeGroupCR : Manifest :=
  ⟨"CephFilesystemSubVolumeGroup", .bare (namespaceOf env), .bare (env "SUBVOLUME_GROUP"),
    [("filesystemName", .bare (env "CEPHFS_FS_NAME"))]⟩

def createSubvolumeGroupCR : Importer Unit :=
  createUnlessFound (.manifest (subvolumeGroupCR env))
    ("subvolumegroup " ++ env "SUBVOLUME_GROUP" ++ " already exists")

end Variables

section Waiting

/-- The characters of a command line. Each one has with it whether it stands in quotes. -/
def quoted (text : String) : List (Char × Bool) := text.toList.map (·, true)

def bare (text : String) : List (Char × Bool) := text.toList.map (·, false)

def shellWords (chars : List (Char × Bool)) : List (List Char) :=
  (fields (fun ch => ch.1 == ' ' && !ch.2) chars).map (·.map Prod.fst)

def readyCount (out : String) : ℕ :=
  ((out.toList.splitOnP (· == '\n')).filter (fun line => "Ready".toList <:+: line)).length

/-- The words after `sh -c`. The quotes around the message end those around the script, so
that only the first word, up to the message, is the script. -/
def waitWords (count : ℕ) : List (List Char) :=
  shellWords (quoted "until [ " ++ quoted (toString count) ++ quoted " -eq 1 ]; do echo " ++
    bare "waiting for radosNamespace to get created" ++ quoted " && sleep 1; done")

def waitReady (ref : Ref) : Importer Unit := do
  let out ← ask (KubeOp.phase ref)
  let ok ← ask (KubeOp.timeoutSh (waitWords (readyCount out)))
  orHalt ok

def clusterIdOf (ref : Ref) : Importer String := do
  let found ← ask (KubeOp.clusterId ref)
  match found with
  | some clusterId => pure clusterId
  | none => fail .commandFailed

variable (env : Env)

def groupClusterId (key : String) (createCR : Importer Unit) (ref : Ref) : Importer String :=
  if env key ≠ "" then do
    createCR
    waitReady ref
    clusterIdOf ref
  else pure (namespaceOf env)

def importClusterID : Importer (String × String) := do
  let clusterIdRBD ← groupClusterId env "RADOS_NAMESPACE" (createRadosNamespaceCR env)
    (radosNamespaceCR env).asWritten.ref
  let clusterIdCephFS ← groupClusterId env "SUBVOLUME_GROUP" (createSubvolumeGroupCR env)
    (subvolumeGroupCR env).asWritten.ref
  pure (clusterIdRBD, clusterIdCephFS)

example : (waitWords 1).map String.ofList =
    ["until [ 1 -eq 1 ]; do echo waiting", "for", "radosNamespace", "to", "get",
      "created && sleep 1; done"] := by
  decide +kernel

end Waiting

section Objects

variable (env : Env)

def rookSecret (name : String) (literals : List (String × String)) : Object :=
  ⟨⟨"Secret", namespaceOf env, name⟩, ("type", "kubernetes.io/rook") :: literals⟩

def monSecret : Object :=
  rookSecret env "rook-ceph-mon"
    [("cluster-name", namespaceOf env), ("fsid", env "ROOK_EXTERNAL_FSID"),
      ("admin-secret", adminSecret env), ("mon-secret", "mon-secret"),
      ("ceph-username", env "ROOK_EXTERNAL_USERNAME"),
      ("ceph-secret", env "ROOK_EXTERNAL_USER_SECRET")]

def importSecret : Importer Unit :=
  createUnlessFound (.command (monSecret env)) "secret rook-ceph-mon already exists"

def monEndpoints : Object :=
  ⟨⟨"ConfigMap", namespaceOf env, "rook-ceph-mon-endpoints"⟩,
    [("data", env "ROOK_EXTERNAL_CEPH_MON_DATA"), ("mapping", "\x7b\x7d"), ("maxMonId", "2")]⟩

def importConfigMap : Importer Unit :=
  createUnlessFound (.command (monEndpoints env)) "configmap rook-ceph-mon-endpoints already exists"

def driverSecret (nameKey secretKey idField keyField : String) : Object :=
  rookSecret env ("rook-" ++ env nameKey) [(idField, env nameKey), (keyField, env secretKey)]

def rbdNodeSecret : Object :=
  driverSecret env "CSI_RBD_NODE_SECRET_NAME" "CSI_RBD_NODE_SECRET" "userID" "userKey"

def importCsiRBDNodeSecret : Importer Unit :=
  createUnlessFound (.command (rbdNodeSecret env))
    ("secret rook-" ++ env "CSI_RBD_NODE_SECRET_NAME" ++ " already exists")

def rbdProvisionerSecret : Object :=
  driverSecret env "CSI_RBD_PROVISIONER_SECRET_NAME" "CSI_RBD_PROVISIONER_SECRET" "userID" "userKey"

def importCsiRBDProvisionerSecret : Importer Unit :=
  createUnlessFound (.command (rbdProvisionerSecret env))
    ("secret " ++ env "CSI_RBD_PROVISIONER_SECRET_NAME" ++ " already exists")

def cephfsNodeSecret : Object :=
  driverSecret env "CSI_CEPHFS_NODE_SECRET_NAME" "CSI_CEPHFS_NODE_SECRET" "adminID" "adminKey"

def importCsiCephFSNodeSecret : Importer Unit :=
  createUnlessFound (.command (cephfsNodeSecret env))
    ("secret " ++ env "CSI_CEPHFS_NODE_SECRET_NAME" ++ " already exists")

def cephfsProvisionerSecret : Object :=
  driverSecret env "CSI_CEPHFS_PROVISIONER_SECRET_NAME" "CSI_CEPHFS_PROVISIONER_SECRET"
    "adminID" "adminKey"

def importCsiCephFSProvisionerSecret : Importer Unit :=
  createUnlessFound (.command (cephfsProvisionerSecret env))
    ("secret " ++ env "CSI_CEPHFS_PROVISIONER_SECRET_NAME" ++ " already exists")

def rgwAdminOpsUser : Object :=
  rookSecret env "rgw-admin-ops-user"
    [("accessKey", env "RGW_ADMIN_OPS_USER_ACCESS_KEY"),
      ("secretKey", env "RGW_ADMIN_OPS_USER_SECRET_KEY")]

def importRGWAdminOpsUser : Importer Unit :=
  createUnlessFound (.command (rgwAdminOpsUser env)) "secret rgw-admin-ops-user already exists"

def secretParameters (provisionerKey nodeKey : String) : List (String × Scalar) :=
  [("csi.storage.k8s.io/provisioner-secret-name", .quoted ("rook-" ++ env provisionerKey)),
    ("csi.storage.k8s.io/provisioner-secret-namespace", .bare (namespaceOf env)),
    ("csi.storage.k8s.io/controller-expand-secret-name", .quoted ("rook-" ++ env provisionerKey)),
    ("csi.storage.k8s.io/controller-expand-secret-namespace", .bare (namespaceOf env)),
    ("csi.storage.k8s.io/node-stage-secret-name", .quoted ("rook-" ++ env nodeKey)),
    ("csi.storage.k8s.io/node-stage-secret-namespace", .bare (namespaceOf env))]

def rbdStorageClass (clusterId : String) (pools : List (String × Scalar)) : Manifest :=
  ⟨"StorageClass", .constant "", .constant "ceph-rbd",
    [("provisioner", .constant "rook-ceph.rbd.csi.ceph.com"), ("clusterID", .bare clusterId)] ++
      pools ++
      [("imageFormat", .constant "2"), ("imageFeatures", .bare (rbdFeatures env))] ++
      secretParameters env "CSI_RBD_PROVISIONER_SECRET_NAME" "CSI_RBD_NODE_SECRET_NAME" ++
      [("csi.storage.k8s.io/fstype", .constant "ext4"), ("allowVolumeExpansion", .constant "true"),
        ("reclaimPolicy", .constant "Delete")]⟩

def ecRBDStorageClass (clusterId : String) : Manifest :=
  rbdStorageClass env clusterId
    [("pool", .bare (env "RBD_METADATA_EC_POOL_NAME")), ("dataPool", .bare (env "RBD_POOL_NAME"))]

def createECRBDStorageClass (clusterId : String) : Importer Unit :=
  createUnlessFound (.manifest (ecRBDStorageClass env clusterId))
    "storageclass ceph-rbd already exists"

def plainRBDStorageClass (clusterId : String) : Manifest :=
  rbdStorageClass env clusterId [("pool", .bare (env "RBD_POOL_NAME"))]

def createRBDStorageClass (clusterId : String) : Importer Unit :=
  createUnlessFound (.manifest (plainRBDStorageClass env clusterId))
    "storageclass ceph-rbd already exists"

def cephfsStorageClass (clusterId : String) : Manifest :=
  ⟨"StorageClass", .constant "", .constant "cephfs",
    [("provisioner", .constant "rook-ceph.cephfs.csi.ceph.com"), ("clusterID", .bare clusterId),
      ("fsName", .bare (env "CEPHFS_FS_NAME")), ("pool", .bare (env "CEPHFS_POOL_NAME"))] ++
      secretParameters env "CSI_CEPHFS_PROVISIONER_SECRET_NAME" "CSI_CEPHFS_NODE_SECRET_NAME" ++
      [("allowVolumeExpansion", .constant "true"), ("reclaimPolicy", .constant "Delete")]⟩

def createCephFSStorageClass (clusterId : String) : Importer Unit :=
  createUnlessFound (.manifest (cephfsStorageClass env clusterId))
    "storageclass cephfs already exists"

end Objects

section Main

variable (env : Env)

/-- `if [ -n "$A" ] && [ -n "$B" ]; then ... fi` -/
def whenSet (keys : List String) (d : Importer Unit) : Importer Unit :=
  if keys.all (fun key => env key != "") then d else pure ()

def importObjects (clusterIdRBD clusterIdCephFS : String) : Importer Unit := do
  importSecret env
  importConfigMap env
  whenSet env ["CSI_RBD_NODE_SECRET_NAME", "CSI_RBD_NODE_SECRET"] (importCsiRBDNodeSecret env)
  whenSet env ["CSI_RBD_PROVISIONER_SECRET_NAME", "CSI_RBD_PROVISIONER_SECRET"]
    (importCsiRBDProvisionerSecret env)
  whenSet env ["RGW_ADMIN_OPS_USER_ACCESS_KEY", "RGW_ADMIN_OPS_USER_SECRET_KEY"]
    (importRGWAdminOpsUser env)
  whenSet env ["CSI_CEPHFS_NODE_SECRET_NAME", "CSI_CEPHFS_NODE_SECRET"]
    (importCsiCephFSNodeSecret env)
  whenSet env ["CSI_CEPHFS_PROVISIONER_SECRET_NAME", "CSI_CEPHFS_PROVISIONER_SECRET"]
    (importCsiCephFSProvisionerSecret env)
  whenSet env ["RBD_POOL_NAME"]
    (if env "RBD_METADATA_EC_POOL_NAME" ≠ "" then createECRBDStorageClass env clusterIdRBD
      else createRBDStorageClass env clusterIdRBD)
  whenSet env ["CEPHFS_FS_NAME", "CEPHFS_POOL_NAME"]
    (createCephFSStorageClass env clusterIdCephFS)

def importScript : Importer Unit := do
  checkEnvVars env
  createClusterNamespace env
  let clusterIds ← importClusterID env
  importObjects env clusterIds.1 clusterIds.2

end Main

abbrev Objects := Ref → Option (List (String × String))

def addsObject : KubeOp → Bool
  | .create _ => true
  | _ => false

structure KubeLaws {σ : Type} (party : Party KubeOp KubeReply σ) (objects : σ → Objects) :
    Prop where
  same_objects : ∀ op s, addsObject op = false → objects (party op s).2 = objects s
  create_kept : ∀ src s ref fields, objects s ref = some fields →
    objects (party (.create src) s).2 ref = some fields
  get_found : ∀ ref s, ref.Plain → (party (.get ref) s).1 = true → (objects s ref).isSome
  create_changed : ∀ src s, src.Plain → objects (party (.create src) s).2 = objects s ∨
    objects s src.asWritten.ref = none ∧ objects (party (.create src) s).2 =
      Function.update (objects s) src.asWritten.ref (some src.asWritten.fields)
  create_done : ∀ src s, src.Plain → (party (.create src) s).1 = true →
    (objects (party (.create src) s).2 src.asWritten.ref).isSome

def HasNamespace (os : Objects) (ref : Ref) : Prop :=
  ref.namespaceName = "" ∨ (os ⟨"Namespace", "", ref.namespaceName⟩).isSome

instance (os : Objects) (ref : Ref) : Decidable (HasNamespace os ref) :=
  inferInstanceAs (Decidable (_ ∨ _))

/-- A cluster whose commands work: what is there is found, and what is missing and has a
valid name is created. -/
structure KubeReliable {σ : Type} (party : Party KubeOp KubeReply σ) (objects : σ → Objects) :
    Prop extends KubeLaws party objects where
  get_works : ∀ ref s, ref.Plain → (objects s ref).isSome → (party (.get ref) s).1 = true
  create_works : ∀ src s, src.Plain → src.asWritten.ref.Valid →
    objects s src.asWritten.ref = none → HasNamespace (objects s) src.asWritten.ref →
    (party (.create src) s).1 = true

/-- A loop that is begun and never closed, which a shell does not run. -/
structure Unfinished (script : List Char) : Prop where
  begun : "until ".toList <+: script
  open_end : ¬ "done".toList <:+: script

instance (script : List Char) : Decidable (Unfinished script) :=
  decidable_of_iff ("until ".toList <+: script ∧ ¬ "done".toList <:+: script)
    ⟨fun h => ⟨h.1, h.2⟩, fun h => ⟨h.begun, h.open_end⟩⟩

/-- `sh` refuses a script whose loop has no end. -/
def ShNeedsDone {σ : Type} (party : Party KubeOp KubeReply σ) : Prop :=
  ∀ script args s, Unfinished script → (party (.timeoutSh (script :: args)) s).1 = false

section Plain

def objectsIn (s : List Object) : Objects :=
  fun ref => (s.find? (fun obj => obj.ref = ref)).map Object.fields

/-- A cluster that keeps its objects in a list and has every group ready at once. -/
def plainKube : Party KubeOp KubeReply (List Object)
  | .echo _, s => ((), s)
  | .get ref, s => ((objectsIn s ref).isSome, s)
  | .create src, s =>
    if src.Plain ∧ objectsIn s src.asWritten.ref = none ∧
        HasNamespace (objectsIn s) src.asWritten.ref then
      (true, src.asWritten :: s)
    else (false, s)
  | .phase _, s => ("Ready", s)
  | .clusterId ref, s => (some ref.name, s)
  | .timeoutSh [], s => (false, s)
  | .timeoutSh (script :: _), s => (!decide (Unfinished script), s)

theorem objectsIn_cons (obj : Object) (s : List Object) :
    objectsIn (obj :: s) = Function.update (objectsIn s) obj.ref (some obj.fields) := by
  funext ref
  by_cases href : ref = obj.ref
  · rw [href, Function.update_self]
    simp [objectsIn]
  · rw [Function.update_of_ne href]
    simp [objectsIn, Ne.symm href]

theorem plainKube_create (src : Source) (s : List Object) :
    plainKube (.create src) s = (false, s) ∨
      objectsIn s src.asWritten.ref = none ∧
        plainKube (.create src) s = (true, src.asWritten :: s) := by
  simp only [plainKube]
  split
  · rename_i h
    exact Or.inr ⟨h.2.1, rfl⟩
  · exact Or.inl rfl

theorem plainKube_reliable : KubeReliable plainKube objectsIn where
  same_objects op s h := by
    cases op with
    | create src => cases h
    | timeoutSh words => cases words <;> rfl
    | _ => rfl
  create_kept src s ref fields h := by
    rcases plainKube_create src s with hrun | ⟨hnone, hrun⟩
    · rw [hrun, h]
    · rw [hrun, objectsIn_cons, Function.update_of_ne, h]
      rintro rfl
      rw [hnone] at h
      cases h
  get_found ref s _ h := h
  create_changed src s _ := by
    rcases plainKube_create src s with hrun | ⟨hnone, hrun⟩
    · rw [hrun]
      exact Or.inl rfl
    · rw [hrun]
      exact Or.inr ⟨hnone, objectsIn_cons _ s⟩
  create_done src s _ h := by
    rcases plainKube_create src s with hrun | ⟨hnone, hrun⟩
    · rw [hrun] at h
      cases h
    · rw [hrun, objectsIn_cons, Function.update_self, Option.isSome_some]
  get_works ref s _ h := h
  create_works src s hplain _ hnone hns := by
    simp only [plainKube]
    rw [if_pos ⟨hplain, hnone, hns⟩]

theorem plainKube_needsDone : ShNeedsDone plainKube := by
  intro script args s h
  simp [plainKube, h]

def envOf (vars : List (String × String)) : Env := fun key => (vars.lookup key).getD ""

def replicapoolVars : List (String × String) :=
  [("ROOK_EXTERNAL_FSID", "af4e1673-0b72-402d-990a-22d2919d0f1c"),
    ("ROOK_EXTERNAL_USERNAME", "client.healthchecker"),
    ("ROOK_EXTERNAL_CEPH_MON_DATA", "a=10.110.205.174:6789"),
    ("ROOK_EXTERNAL_USER_SECRET", "AQDkLIBd9vLGJxAAnXsIKPrwvUXAmY6D"),
    ("CSI_RBD_NODE_SECRET", "AQBOgrNeHbK1AxAAubYBeV8S1U"),
    ("CSI_RBD_NODE_SECRET_NAME", "csi-rbd-node"), ("RBD_POOL_NAME", "replicapool")]

end Plain

end MigrateImageRepository.ExternalCluster.ClusterImport
