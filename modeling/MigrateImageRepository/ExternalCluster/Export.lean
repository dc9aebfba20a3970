import Mathlib.Data.List.DropRight
import MigrateImageRepository.ExternalCluster.Permissions
import MigrateImageRepository.ExternalCluster.Upgrade

/-! The export of `create-external-cluster-resources.py`: it creates the users that are
missing, collects what a Kubernetes cluster has to know in `out_map`, and prints it as
shell variables or as a list of resources. Network probes are single questions, and the
text that goes to standard error is left out. -/

namespace MigrateImageRepository.ExternalCluster.Export
open Dialogue Dialogue.Prog Cluster Permissions PoolPrefix Upgrade Users

inductive Value where
  | none
  | bool (b : Bool)
  | text (s : String)
deriving DecidableEq

structure Resource where
  name : String
  kind : String
  data : List (String × Value)

/-- What Python brings along beyond ASCII, and its JSON printer. -/
structure Python where
  printable : Char → Bool
  lower : String → String
  isLower : String → Bool
  dumps : List Resource → String

def Value.truthy : Value → Bool
  | none => false
  | bool b => b
  | text s => s != ""

def Value.str : Value → String
  | none => "None"
  | bool true => "True"
  | bool false => "False"
  | text s => s

def Value.ofOption : Option String → Value
  | some s => text s
  | Option.none => none

def Value.ofFlag : Flag → Value
  | .text s => text s
  | .bool b => bool b

/-- `out_map` with its keys in the order of their insertion. -/
abbrev OutMap := List (String × Value)

section Questions

variable (py : Python) (args : Args)

def dryRun (msg : String) : Exporter Unit :=
  if args.dryRun then print ("Execute: '" ++ msg ++ "'") else pure ()

def getFsid : Exporter (Option String) :=
  if args.dryRun then do
    dryRun args "ceph fsid"
    pure none
  else some <$> ask Op.fsid

def validateRbdPool : Exporter Unit := do
  let found ← ask (Op.poolExists args.rbdDataPoolName)
  if found then pure ()
  else fail (.executionFailure
    ("The provided pool, '" ++ args.rbdDataPoolName ++ "', does not exist"))

def initRbdPool : Exporter Unit := do
  let done ← ask (Op.poolInit args.rbdDataPoolName)
  orStop done

def validateRadosNamespace : Exporter Unit :=
  if args.radosNamespace = "" then pure ()
  else if py.isLower args.radosNamespace = false then
    fail (.executionFailure
      ("The provided rados Namespace, '" ++ args.radosNamespace ++ "', contains upper case"))
  else do
    let found ← ask (Op.namespaceExists args.rbdDataPoolName args.radosNamespace)
    let found ← orStop found
    if found then pure ()
    else fail (.executionFailure
      ("The provided rados Namespace, '" ++ args.radosNamespace ++
        "', is not found in the pool '" ++ args.rbdDataPoolName ++ "'"))

def reprList (xs : List String) : String :=
  String.ofList ('[' :: [',', ' '].intercalate (xs.map (reprText py.printable)) ++ [']'])

/-- The file system that the arguments name, or the only one, or the first with the pool. -/
def matchingFilesystem (filesystems : List Filesystem) : Except String (Option Filesystem) :=
  if args.cephfsFilesystemName ≠ "" then
    match filesystems.filter (fun fs => fs.name = args.cephfsFilesystemName) with
    | [] => .error ("Filesystem provided, '" ++ args.cephfsFilesystemName ++
        "', is not found in the fs-list: " ++ reprList py (filesystems.map Filesystem.name))
    | fs :: _ => .ok (some fs)
  else
    match filesystems with
    | [fs] => .ok (some fs)
    | _ =>
      if args.cephfsDataPoolName ≠ "" then
        match filesystems.find? (fun fs => args.cephfsDataPoolName ∈ fs.dataPools) with
        | none => .error ("Provided data_pool name, " ++ args.cephfsDataPoolName ++
            ", does not exists")
        | some fs => .ok (some fs)
      else .ok none

def takeFilesystem (fs : Filesystem) : Exporter Args :=
  if args.cephfsDataPoolName ≠ "" ∧ args.cephfsDataPoolName ∉ fs.dataPools then
    fail (.executionFailure ("Provided data-pool-name: '" ++ args.cephfsDataPoolName ++
      "', doesn't match from the data-pools list: " ++ reprList py fs.dataPools))
  else
    let named : Args := { args with
      cephfsFilesystemName := fs.name
      cephfsMetadataPoolName := fs.metadataPool }
    match fs.dataPools with
    | [] => pure named
    | pool :: pools => do
      let dataPool := if args.cephfsDataPoolName ≠ "" then args.cephfsDataPoolName else pool
      if pools ≠ [] then
        print ("WARNING: Multiple data pools detected: " ++ reprList py fs.dataPools ++
          "\nUsing the data-pool: '" ++ dataPool ++ "'\n")
      pure { named with cephfsDataPoolName := dataPool }

def getCephfsDataPoolDetails : Exporter Args :=
  if args.dryRun then do
    dryRun args "ceph fs ls"
    pure args
  else do
    let reply ← ask Op.fsLs
    if reply.ret ≠ 0 then
      if args.cephfsFilesystemName = "" ∧ args.cephfsDataPoolName = "" then pure args
      else fail (.executionFailure ("'fs ls' ceph call failed with error: " ++ reply.err))
    else
      let found ← ofExcept
        ((matchingFilesystem py args reply.out).mapError .executionFailure)
      match found with
      | none => pure args
      | some fs => takeFilesystem py args fs

def leaderAddress (quorum : Quorum) : Except String String :=
  match quorum.mons.filter (fun mon => mon.name = quorum.leaderName) with
  | [] => .error "No matching 'mon' details found"
  | leader :: _ =>
    let ip := String.ofList (leader.publicAddr.toList.takeWhile (· ≠ '/'))
    match leader.addrvec with
    | [only] =>
      if only.type = "v2" then
        .error ("Only 'v2' address type is enabled, user should also enable 'v1' type as well")
      else .ok ip
    | first :: second :: _ =>
      if args.v2PortEnable ∧ first.type = "v2" then .ok first.addr
      else if args.v2PortEnable ∧ second.type = "v2" then .ok second.addr
      else .ok ip
    | [] => .ok ip

def emptyOutputList : String := "Empty output list"

def getCephExternalMonData : Exporter (Option String) :=
  if args.dryRun then do
    dryRun args "ceph quorum_status"
    pure none
  else do
    let reply ← ask Op.quorumStatus
    if reply.ret ≠ 0 then
      fail (.executionFailure ("'quorum_status' command failed.\nError: " ++ reply.err))
    else
      match reply.out with
      | none => fail (.executionFailure
          ("'quorum_status' command failed.\nError: " ++ emptyOutputList))
      | some quorum =>
        let address ← ofExcept ((leaderAddress args quorum).mapError .executionFailure)
        pure (some (quorum.leaderName ++ "=" ++ address))

def getCephDashboardLink : Exporter (Option String) :=
  if args.dryRun then do
    dryRun args "ceph mgr services"
    pure none
  else do
    let reply ← ask Op.mgrServices
    pure (if reply.ret ≠ 0 then none else reply.out)

def validateRbdMetadataEcPoolName : Exporter (Option String) :=
  if args.rbdMetadataEcPoolName = "" then pure none
  else if args.rbdDataPoolName = "" then
    fail (.executionFailure "Flag '--rbd-data-pool-name' should not be empty")
  else do
    let reply ← ask Op.osdDump
    if reply.ret ≠ 0 then
      fail (.executionFailure ("osd dump command failed.\nError: " ++ reply.err))
    else
      match reply.out with
      | none => fail (.executionFailure ("osd dump command failed.\nError: " ++ emptyOutputList))
      | some pools =>
        if ¬ pools.any (fun pool => pool.erasureCodeProfile = "" ∧
            pool.poolName = args.rbdMetadataEcPoolName) then
          fail (.executionFailure ("Provided rbd_ec_metadata_pool name, " ++
            args.rbdMetadataEcPoolName ++ ", does not exist"))
        else if ¬ pools.any (fun pool => pool.erasureCodeProfile ≠ "" ∧
            pool.poolName = args.rbdDataPoolName) then
          fail (.executionFailure ("Provided rbd_data_pool name, " ++ args.rbdDataPoolName ++
            ", does not exist"))
        else pure (some args.rbdMetadataEcPoolName)

end Questions

section Users

variable (args : Args)

/-- `auth get` as a question for the key: the empty text stands for a missing user. -/
def checkUserExist (user : String) : Exporter String := do
  let reply ← authGet user
  match reply.found with
  | none => pure ""
  | some entry => pure entry.key

/-- What `create_checkerKey` and `create_cephCSIKeyring_user` share: the name of the user
that stands for `user` and its key, which a dry run does not ask for. -/
def createKey (user failure : String) : Exporter (Args × String × Option String) := do
  let (args, caps, entity) ← ofExcept ((getCapsAndEntity args user).mapError .executionFailure)
  if args.dryRun then
    dryRun args ("ceph auth get-or-create " ++ entity ++ " " ++ " ".intercalate (flatten caps))
    pure (args, entity, none)
  else
    let userKey ← checkUserExist entity
    if userKey ≠ "" then pure (args, entity, some userKey)
    else
      let reply ← authGetOrCreate entity (flatten caps)
      match reply.found with
      | none => fail (.executionFailure
          (failure ++ "Error: " ++ if reply.ret ≠ 0 then reply.err else emptyOutputList))
      | some entry => pure (args, entity, some entry.key)

def createCheckerKey (user : String) : Exporter (Args × Option String) := do
  let (args, _, key) ← createKey args user
    ("'auth get-or-create " ++ args.runAsUser ++ "' command failed\n")
  pure (args, key)

def afterDot (entity : String) : String :=
  String.ofList ((entity.toList.dropWhile (· ≠ '.')).drop 1)

def createCephCSIKeyringUser (user : String) : Exporter (Args × Option String × String) := do
  let (args, entity, key) ← createKey args user
    ("'auth get-or-create " ++ user ++ "' command failed.\n")
  pure (args, key, if args.dryRun then "" else afterDot entity)

end Users

section Processes

variable (args : Args)

def getOrCreateSubvolumeGroup (subvolumeGroup cephfsFilesystemName : String) :
    Exporter Unit := do
  let found ← checkOutput
    ["ceph", "fs", "subvolumegroup", "getpath", cephfsFilesystemName, subvolumeGroup]
  match found with
  | .ok _ => pure ()
  | .error _ =>
    let created ← checkOutput
      ["ceph", "fs", "subvolumegroup", "create", cephfsFilesystemName, subvolumeGroup]
    match created with
    | .ok _ => pure ()
    | .error _ => fail (.executionFailure
        ("subvolume group " ++ subvolumeGroup ++ " is not able to get created"))

def pinSubvolume (subvolumeGroup cephfsFilesystemName pinType pinSetting : String) :
    Exporter Unit := do
  let pinned ← checkOutput ["ceph", "fs", "subvolumegroup", "pin", cephfsFilesystemName,
    subvolumeGroup, pinType, pinSetting]
  match pinned with
  | .ok _ => pure ()
  | .error _ => fail (.executionFailure
      ("subvolume group " ++ subvolumeGroup ++ " is not able to get pinned"))

def rgwAdminOpsUserName : String := "rgw-admin-ops-user"

def rgwMultisite : List String :=
  ["--rgw-realm", args.rgwRealmName, "--rgw-zonegroup", args.rgwZonegroupName,
    "--rgw-zone", args.rgwZoneName]

def rgwUserCreate : List String :=
  ["radosgw-admin", "user", "create", "--uid", rgwAdminOpsUserName, "--display-name",
    "Rook RGW Admin Ops user", "--caps", "buckets=*;users=*;usage=read;metadata=read;zone=read"] ++
    rgwMultisite args

def rgwUserInfo : List String :=
  ["radosgw-admin", "user", "info", "--uid", rgwAdminOpsUserName] ++ rgwMultisite args

def rgwCapsAdd : List String :=
  ["radosgw-admin", "caps", "add", "--uid", rgwAdminOpsUserName, "--caps", "info=read"] ++
    rgwMultisite args

def noInfoCap : String := "could not add caps: unable to add caps: info=read\n"

/-- The keys of the user, whether it may be given `info=read`, and `"-1"` for a failure. -/
structure RgwUser where
  accessKey : Option String
  secretKey : Option String
  infoCapSupported : Bool
  err : String

def failedRgwUser : RgwUser := ⟨none, none, false, "-1"⟩

/-- The user is created, or queried when it exists already: 17 is `EEXIST`. -/
def rgwUserOutput : Exporter (Option (Option RgwKeys)) := do
  let created ← checkOutput (rgwUserCreate args)
  match created with
  | .ok output => pure (some output)
  | .error failure =>
    if failure.returncode = 17 then do
      let queried ← checkOutput (rgwUserInfo args)
      pure queried.toOption
    else pure none

def createRgwAdminOpsUser : Exporter RgwUser :=
  if args.dryRun then do
    dryRun args ("ceph " ++ " ".intercalate (rgwUserCreate args))
    pure ⟨none, none, false, ""⟩
  else do
    let output ← rgwUserOutput args
    match output with
    | none => pure failedRgwUser
    | some output =>
      let added ← checkOutput (rgwCapsAdd args)
      match added with
      | .ok (some keys) => pure ⟨some keys.accessKey, some keys.secretKey, true, ""⟩
      | .ok none => fail (.keyError "keys")
      | .error failure =>
        if noInfoCap.toList <:+: failure.stderr.toList ∧ failure.returncode = 244 then
          match output with
          | some keys => pure ⟨some keys.accessKey, some keys.secretKey, false, ""⟩
          | none => fail (.keyError "keys")
        else pure failedRgwUser

def validateRgwMultisite (name config : String) : Exporter String :=
  if config ≠ "" then do
    let found ← checkOutput ["radosgw-admin", config, "get", "--rgw-" ++ config, name]
    pure (match found with
      | .ok _ => ""
      | .error _ => "-1")
  else pure ""

def validateRgwEndpointTlsCert : Exporter String :=
  if args.rgwTlsCertPath = "" then pure ""
  else do
    let contents ← ask (Op.readFile args.rgwTlsCertPath)
    let contents ← orStop contents
    pure (String.ofList (contents.toList.rdropWhile isSpace))

end Processes

section OutMap

variable (py : Python)

def getActiveAndStandbyMgrs (args : Args) : Exporter (Value × Value) :=
  if args.skipMonitoringEndpoint then pure (.text "", .text "")
  else if args.dryRun then do
    dryRun args "ceph status"
    pure (.text "", .none)
  else do
    let probed ← ask Op.activeAndStandbyMgrs
    let (ips, port) ← ofExcept (probed.mapError .executionFailure)
    pure (.text ips, .text port)

def exportCephfs (args : Args) : Exporter (Args × OutMap) :=
  if args.cephfsFilesystemName ≠ "" ∧ args.cephfsDataPoolName ≠ "" then do
    let (args, nodeSecret, nodeName) ← createCephCSIKeyringUser args "client.csi-cephfs-node"
    let (args, provisionerSecret, provisionerName) ←
      createCephCSIKeyringUser args "client.csi-cephfs-provisioner"
    getOrCreateSubvolumeGroup "csi" args.cephfsFilesystemName
    pinSubvolume "csi" args.cephfsFilesystemName "distributed" "1"
    if args.subvolumeGroup ≠ "" then
      getOrCreateSubvolumeGroup args.subvolumeGroup args.cephfsFilesystemName
      pinSubvolume args.subvolumeGroup args.cephfsFilesystemName "distributed" "1"
    pure (args,
      [("CSI_CEPHFS_NODE_SECRET", .ofOption nodeSecret),
        ("CSI_CEPHFS_PROVISIONER_SECRET", .ofOption provisionerSecret),
        ("CSI_CEPHFS_NODE_SECRET_NAME", .text nodeName),
        ("CSI_CEPHFS_PROVISIONER_SECRET_NAME", .text provisionerName)])
  else pure (args,
    [("CSI_CEPHFS_NODE_SECRET", .text ""), ("CSI_CEPHFS_PROVISIONER_SECRET", .text "")])

/-- What the export says about the object gateway. The results of `validate_rgw_multisite`
and the error of `create_rgw_admin_ops_user` are overwritten before they are read. -/
structure RgwExport where
  tlsCert : String
  endpoint : String
  keys : OutMap

def exportRgw (args : Args) : Exporter RgwExport :=
  if args.rgwEndpoint = "" then pure ⟨"", "", []⟩
  else if args.dryRun then do
    let _ ← createRgwAdminOpsUser args
    pure ⟨"", "", []⟩
  else do
    let named := [args.rgwRealmName, args.rgwZonegroupName, args.rgwZoneName]
    if named.all (· ≠ "") then
      let _ ← validateRgwMultisite args.rgwRealmName "realm"
      let _ ← validateRgwMultisite args.rgwZonegroupName "zonegroup"
      let _ ← validateRgwMultisite args.rgwZoneName "zone"
    if named.all (· = "") ∨ named.all (· ≠ "") then
      let user ← createRgwAdminOpsUser args
      let err ← ask (Op.validateRgwEndpoint user.infoCapSupported)
      let err ← orStop err
      let tlsCert ← validateRgwEndpointTlsCert args
      pure ⟨tlsCert, if err ≠ "-1" then args.rgwEndpoint else "",
        [("RGW_ADMIN_OPS_USER_ACCESS_KEY", .ofOption user.accessKey),
          ("RGW_ADMIN_OPS_USER_SECRET_KEY", .ofOption user.secretKey)]⟩
    else pure ⟨"", "", []⟩

def lowerClusterName (args : Args) : Args :=
  { args with k8sClusterName := py.lower args.k8sClusterName }

/-- The first steps, after which the arguments are complete. -/
def prepare (args : Args) : Exporter Args := do
  validateRbdPool args
  initRbdPool args
  validateRadosNamespace py args
  getCephfsDataPoolDetails py args

/-- What the steps of `_gen_output_map` find out. -/
structure Details where
  args : Args
  fsid : Option String
  monData : Option String
  userSecret : Option String
  dashboardLink : Option String
  rbdNode : Option String × String
  rbdProvisioner : Option String × String
  cephfs : OutMap
  monitoring : Value × Value
  ecPoolName : Option String
  rgw : RgwExport

def Details.outMap (details : Details) : OutMap :=
  [("NAMESPACE", .text details.args.namespaceName),
    ("K8S_CLUSTER_NAME", .text details.args.k8sClusterName),
    ("ROOK_EXTERNAL_FSID", .ofOption details.fsid),
    ("ROOK_EXTERNAL_USERNAME", .text details.args.runAsUser),
    ("ROOK_EXTERNAL_CEPH_MON_DATA", .ofOption details.monData),
    ("ROOK_EXTERNAL_USER_SECRET", .ofOption details.userSecret),
    ("ROOK_EXTERNAL_DASHBOARD_LINK", .ofOption details.dashboardLink),
    ("CSI_RBD_NODE_SECRET", .ofOption details.rbdNode.1),
    ("CSI_RBD_NODE_SECRET_NAME", .text details.rbdNode.2),
    ("CSI_RBD_PROVISIONER_SECRET", .ofOption details.rbdProvisioner.1),
    ("CSI_RBD_PROVISIONER_SECRET_NAME", .text details.rbdProvisioner.2),
    ("CEPHFS_POOL_NAME", .text details.args.cephfsDataPoolName),
    ("CEPHFS_METADATA_POOL_NAME", .text details.args.cephfsMetadataPoolName),
    ("CEPHFS_FS_NAME", .text details.args.cephfsFilesystemName),
    ("RESTRICTED_AUTH_PERMISSION", .ofFlag details.args.restrictedAuthPermission),
    ("RADOS_NAMESPACE", .text details.args.radosNamespace),
    ("SUBVOLUME_GROUP", .text details.args.subvolumeGroup)] ++ details.cephfs ++
  [("RGW_TLS_CERT", .text details.rgw.tlsCert),
    ("MONITORING_ENDPOINT", details.monitoring.1),
    ("MONITORING_ENDPOINT_PORT", details.monitoring.2),
    ("RBD_POOL_NAME", .text details.args.rbdDataPoolName),
    ("RBD_METADATA_EC_POOL_NAME", .ofOption details.ecPoolName),
    ("RGW_POOL_PREFIX", .text details.args.rgwPoolPrefix),
    ("RGW_ENDPOINT", .text details.rgw.endpoint)] ++ details.rgw.keys

def genOutputMap (args : Args) : Exporter OutMap := do
  let args ← prepare py (lowerClusterName py args)
  let fsid ← getFsid args
  let monData ← getCephExternalMonData args
  let (args, userSecret) ← createCheckerKey args "client.healthchecker"
  let dashboardLink ← getCephDashboardLink args
  let (args, rbdNode) ← createCephCSIKeyringUser args "client.csi-rbd-node"
  let (args, rbdProvisioner) ← createCephCSIKeyringUser args "client.csi-rbd-provisioner"
  let (args, cephfs) ← exportCephfs args
  let monitoring ← getActiveAndStandbyMgrs args
  let ecPoolName ← validateRbdMetadataEcPoolName args
  let rgw ← exportRgw args
  pure (Details.outMap ⟨args, fsid, monData, userSecret, dashboardLink, rbdNode, rbdProvisioner,
    cephfs, monitoring, ecPoolName, rgw⟩)

def excludedKeys : List String := ["K8S_CLUSTER_NAME"]

def shellText (out : OutMap) : String :=
  String.join ((out.filter (fun entry => entry.2.truthy && entry.1 ∉ excludedKeys)).map
    (fun entry => "export " ++ entry.1 ++ "=" ++ entry.2.str ++ "\n"))

def genShellOut (args : Args) : Exporter String := shellText <$> genOutputMap py args

end OutMap

section Json

variable (out : OutMap)

def getOut (key : String) : Except Stop Value :=
  match out.lookup key with
  | some value => .ok value
  | none => .error (.keyError key)

def csiSecret (secretKey nameKey idField keyField : String) : Except Stop (List Resource) := do
  let secret ← getOut out secretKey
  if secret.truthy then
    let name ← getOut out nameKey
    if name.truthy then
      pure [⟨"rook-" ++ name.str, "Secret", [(idField, name), (keyField, secret)]⟩]
    else pure []
  else pure []

def secretNames (provisionerKey nodeKey : String) : Except Stop (List (String × Value)) := do
  let provisioner ← getOut out provisionerKey
  let node ← getOut out nodeKey
  pure [("csi.storage.k8s.io/provisioner-secret-name", .text ("rook-" ++ provisioner.str)),
    ("csi.storage.k8s.io/controller-expand-secret-name", .text ("rook-" ++ provisioner.str)),
    ("csi.storage.k8s.io/node-stage-secret-name", .text ("rook-" ++ node.str))]

def clusterResources : Except Stop (List Resource) := do
  let monData ← getOut out "ROOK_EXTERNAL_CEPH_MON_DATA"
  let fsid ← getOut out "ROOK_EXTERNAL_FSID"
  let username ← getOut out "ROOK_EXTERNAL_USERNAME"
  let userSecret ← getOut out "ROOK_EXTERNAL_USER_SECRET"
  pure [⟨"rook-ceph-mon-endpoints", "ConfigMap",
      [("data", monData), ("maxMonId", .text "0"), ("mapping", .text "\x7b\x7d")]⟩,
    ⟨"rook-ceph-mon", "Secret",
      [("admin-secret", .text "admin-secret"), ("fsid", fsid), ("mon-secret", .text "mon-secret")]⟩,
    ⟨"rook-ceph-operator-creds", "Secret", [("userID", username), ("userKey", userSecret)]⟩]

def monitoringResources : Except Stop (List Resource) := do
  let endpoint ← getOut out "MONITORING_ENDPOINT"
  if endpoint.truthy then
    let port ← getOut out "MONITORING_ENDPOINT_PORT"
    if port.truthy then
      pure [⟨"monitoring-endpoint", "CephCluster",
        [("MonitoringEndpoint", endpoint), ("MonitoringPort", port)]⟩]
    else pure []
  else pure []

def dashboardResources : Except Stop (List Resource) := do
  let link ← getOut out "ROOK_EXTERNAL_DASHBOARD_LINK"
  if link.truthy then
    pure [⟨"rook-ceph-dashboard-link", "Secret",
      [("userID", .text "ceph-dashboard-link"), ("userKey", link)]⟩]
  else pure []

def rbdResources : Except Stop (List Resource) := do
  let radosNamespace ← getOut out "RADOS_NAMESPACE"
  let restricted ← getOut out "RESTRICTED_AUTH_PERMISSION"
  let ecPoolName ← getOut out "RBD_METADATA_EC_POOL_NAME"
  let poolName ← getOut out "RBD_POOL_NAME"
  let secrets ← secretNames out "CSI_RBD_PROVISIONER_SECRET_NAME" "CSI_RBD_NODE_SECRET_NAME"
  if radosNamespace.truthy && restricted.truthy && !ecPoolName.truthy then
    pure [⟨"rados-namespace", "CephBlockPoolRadosNamespace",
        [("radosNamespaceName", radosNamespace), ("pool", poolName)]⟩,
      ⟨"ceph-rbd-rados-namespace", "StorageClass", ("pool", poolName) :: secrets⟩]
  else if ecPoolName.truthy then
    pure [⟨"ceph-rbd", "StorageClass", [("dataPool", poolName), ("pool", ecPoolName)] ++ secrets⟩]
  else pure [⟨"ceph-rbd", "StorageClass", ("pool", poolName) :: secrets⟩]

def cephfsResources : Except Stop (List Resource) := do
  let fsName ← getOut out "CEPHFS_FS_NAME"
  if fsName.truthy then
    let poolName ← getOut out "CEPHFS_POOL_NAME"
    let secrets ← secretNames out "CSI_CEPHFS_PROVISIONER_SECRET_NAME"
      "CSI_CEPHFS_NODE_SECRET_NAME"
    pure [⟨"cephfs", "StorageClass", [("fsName", fsName), ("pool", poolName)] ++ secrets⟩]
  else pure []

def rgwResources : Except Stop (List Resource) := do
  let endpoint ← getOut out "RGW_ENDPOINT"
  if endpoint.truthy then
    let prefixName ← getOut out "RGW_POOL_PREFIX"
    let accessKey ← getOut out "RGW_ADMIN_OPS_USER_ACCESS_KEY"
    let secretKey ← getOut out "RGW_ADMIN_OPS_USER_SECRET_KEY"
    pure [⟨"ceph-rgw", "StorageClass", [("endpoint", endpoint), ("poolPrefix", prefixName)]⟩,
      ⟨"rgw-admin-ops-user", "Secret", [("accessKey", accessKey), ("secretKey", secretKey)]⟩]
  else pure []

def tlsResources : Except Stop (List Resource) := do
  let cert ← getOut out "RGW_TLS_CERT"
  if cert.truthy then pure [⟨"ceph-rgw-tls-cert", "Secret", [("cert", cert)]⟩] else pure []

def jsonParts : List (Except Stop (List Resource)) :=
  [clusterResources out, monitoringResources out,
    csiSecret out "CSI_RBD_NODE_SECRET" "CSI_RBD_NODE_SECRET_NAME" "userID" "userKey",
    csiSecret out "CSI_RBD_PROVISIONER_SECRET" "CSI_RBD_PROVISIONER_SECRET_NAME" "userID" "userKey",
    csiSecret out "CSI_CEPHFS_PROVISIONER_SECRET" "CSI_CEPHFS_PROVISIONER_SECRET_NAME"
      "adminID" "adminKey",
    csiSecret out "CSI_CEPHFS_NODE_SECRET" "CSI_CEPHFS_NODE_SECRET_NAME" "adminID" "adminKey",
    dashboardResources out, rbdResources out, cephfsResources out, rgwResources out,
    tlsResources out]

def concatParts : List (Except Stop (List Resource)) → Except Stop (List Resource)
  | [] => .ok []
  | part :: parts => do
    let resources ← part
    let rest ← concatParts parts
    pure (resources ++ rest)

def jsonResources : Except Stop (List Resource) := concatParts (jsonParts out)

end Json

section Main

variable (py : Python)

def genJsonOut (args : Args) : Exporter String := do
  let out ← genOutputMap py args
  if args.dryRun then pure ""
  else
    let resources ← ofExcept (jsonResources out)
    pure (py.dumps resources ++ "\n")

def checkConflictingOptions (args : Args) : Except Stop Unit :=
  if args.upgrade = false ∧ args.rbdDataPoolName = "" then
    .error (.executionFailure
      "Either '--upgrade' or '--rbd-data-pool-name <pool_name>' should be specified")
  else .ok ()

/-- `__init__`: the arguments that are filled in when the run is no upgrade. -/
def init (args : Args) : Except Stop Args := do
  checkConflictingOptions args
  let args := if args.runAsUser = "" ∧ args.upgrade = false then
    { args with runAsUser := "client.healthchecker" } else args
  pure (if args.rgwPoolPrefix = "" ∧ args.upgrade = false then
    { args with rgwPoolPrefix := "default" } else args)

def generateOutput (args : Args) : Exporter String :=
  if args.upgrade then do
    let _ ← upgradeUsersPermissions py.printable args
    pure ""
  else if args.format = "json" then genJsonOut py args
  else if args.format = "bash" then genShellOut py args
  else fail (.executionFailure ("Unsupported format: " ++ args.format))

def writeOutput (args : Args) (generatedOutput : String) : Exporter Unit := do
  print generatedOutput
  if args.output ≠ "" ∧ generatedOutput ≠ "" then
    let written ← ask (Op.writeFile args.output generatedOutput)
    orStop written

def main (args : Args) : Exporter Unit := do
  let generatedOutput ← generateOutput py args
  writeOutput args generatedOutput

def script (args : Args) : Exporter Unit := do
  let args ← ofExcept (init args)
  main py args

end Main

section Ascii

def jsonChar (ch : Char) : List Char :=
  if ch = '"' ∨ ch = '\\' then ['\\', ch]
  else if ch = '\n' then ['\\', 'n']
  else if ch = '\r' then ['\\', 'r']
  else if ch = '\t' then ['\\', 't']
  else if ch = '\x08' then ['\\', 'b']
  else if ch = '\x0c' then ['\\', 'f']
  else if ch.toNat < 0x20 ∨ ch.toNat = 0x7f then '\\' :: 'u' :: hexDigits 4 ch.toNat
  else [ch]

def jsonText (s : String) : String := "\"" ++ String.ofList (s.toList.flatMap jsonChar) ++ "\""

def jsonValue : Value → String
  | .none => "null"
  | .bool b => if b then "true" else "false"
  | .text s => jsonText s

def jsonObject (fields : List (String × String)) : String :=
  "\x7b" ++ ", ".intercalate (fields.map (fun field => jsonText field.1 ++ ": " ++ field.2)) ++
    "\x7d"

def jsonResource (resource : Resource) : String :=
  jsonObject [("name", jsonText resource.name), ("kind", jsonText resource.kind),
    ("data", jsonObject (resource.data.map (fun field => (field.1, jsonValue field.2))))]

def asciiPython : Python where
  printable _ := true
  lower s := s.map Char.toLower
  isLower s := s.any Char.isLower && !s.any Char.isUpper
  dumps resources := "[" ++ ", ".intercalate (resources.map jsonResource) ++ "]"

def replicapoolArgs : Args := { rbdDataPoolName := "replicapool" }

end Ascii

end MigrateImageRepository.ExternalCluster.Export
