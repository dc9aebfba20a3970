import MigrateImageRepository.ExternalCluster.ImportEnds
import MigrateImageRepository.ExternalCluster.Isolation
import MigrateImageRepository.ExternalCluster.Resources
import MigrateImageRepository.ExternalCluster.ShellExports

/-! From the export to the import.
A shell that has read the bash output of an export can import the cluster: the import comes
to its end, and every secret that a storage class in Kubernetes names is there and holds the
key of a user that the Ceph cluster has. -/

namespace MigrateImageRepository.ExternalCluster.Handoff
open Dialogue Dialogue.Prog Additions Cluster ClusterImport Created Export ImportEnds ImportRuns
open Isolation Manifests Repeated Requests Resources ShellExports Upgrade Users

def outKeys : List String :=
  ["NAMESPACE", "K8S_CLUSTER_NAME", "ROOK_EXTERNAL_FSID", "ROOK_EXTERNAL_USERNAME",
    "ROOK_EXTERNAL_CEPH_MON_DATA", "ROOK_EXTERNAL_USER_SECRET", "ROOK_EXTERNAL_DASHBOARD_LINK",
    "CSI_RBD_NODE_SECRET", "CSI_RBD_NODE_SECRET_NAME", "CSI_RBD_PROVISIONER_SECRET",
    "CSI_RBD_PROVISIONER_SECRET_NAME", "CEPHFS_POOL_NAME", "CEPHFS_METADATA_POOL_NAME",
    "CEPHFS_FS_NAME", "RESTRICTED_AUTH_PERMISSION", "RADOS_NAMESPACE", "SUBVOLUME_GROUP"] ++
  ["CSI_CEPHFS_NODE_SECRET", "CSI_CEPHFS_PROVISIONER_SECRET", "CSI_CEPHFS_NODE_SECRET_NAME",
    "CSI_CEPHFS_PROVISIONER_SECRET_NAME"] ++
  ["RGW_TLS_CERT", "MONITORING_ENDPOINT", "MONITORING_ENDPOINT_PORT", "RBD_POOL_NAME",
    "RBD_METADATA_EC_POOL_NAME", "RGW_POOL_PREFIX", "RGW_ENDPOINT"] ++
  ["RGW_ADMIN_OPS_USER_ACCESS_KEY", "RGW_ADMIN_OPS_USER_SECRET_KEY"]

theorem nodup_outKeys : outKeys.Nodup := by decide +kernel

theorem names_outKeys {key : String} (h : key ∈ outKeys) :
    key ≠ "" ∧ ∀ ch ∈ key.toList, isNameChar ch = true := by
  have hall : outKeys.all (fun key => key != "" && key.toList.all isNameChar) = true := by
    decide +kernel
  simpa using List.all_eq_true.mp hall key h

theorem keys_sublist {details : Details} {us : Users} (hvalid : Valid details us) :
    List.Sublist (details.outMap.map Prod.fst) outKeys := by
  have hcephfs : List.Sublist (details.cephfs.map Prod.fst) ["CSI_CEPHFS_NODE_SECRET",
      "CSI_CEPHFS_PROVISIONER_SECRET", "CSI_CEPHFS_NODE_SECRET_NAME",
      "CSI_CEPHFS_PROVISIONER_SECRET_NAME"] := by
    have hout := hvalid.cephfs
    rw [CephfsOut] at hout
    split at hout
    · obtain ⟨node, provisioner, hout, -⟩ := hout
      rw [hout]
      exact List.Sublist.refl _
    · rw [hout]
      exact List.sublist_append_left ["CSI_CEPHFS_NODE_SECRET", "CSI_CEPHFS_PROVISIONER_SECRET"] _
  have hrgw : List.Sublist (details.rgw.keys.map Prod.fst)
      ["RGW_ADMIN_OPS_USER_ACCESS_KEY", "RGW_ADMIN_OPS_USER_SECRET_KEY"] := by
    rcases hvalid.rgw with ⟨-, hkeys⟩ | ⟨accessKey, secretKey, hkeys⟩
    · rw [hkeys]
      exact List.nil_sublist _
    · rw [hkeys]
      exact List.Sublist.refl _
  rw [Details.outMap, List.map_append, List.map_append, List.map_append]
  exact (((List.Sublist.refl _).append hcephfs).append (List.Sublist.refl _)).append hrgw

section Variables

def driverUsers : List String :=
  ["client.csi-cephfs-node", "client.csi-cephfs-provisioner", "client.csi-rbd-node",
    "client.csi-rbd-provisioner"]

/-- Variables that hold the name and the key of a user that the Ceph cluster has. -/
structure HasDriver (env : Env) (us : Users) (user nameKey secretKey : String) : Prop where
  driver : user ∈ driverUsers
  base : user.toList <+: ("client." ++ env nameKey).toList
  opens : ∃ found, us ("client." ++ env nameKey) = some found ∧ env secretKey = found.key
  name_ne : env nameKey ≠ ""
  secret_ne : env secretKey ≠ ""

/-- Variables with which an import can begin, and whose users the Ceph cluster has. -/
structure HandsOut (env : Env) (us : Users) (checker : String) : Prop where
  complete : EnvComplete env
  rados : env "RADOS_NAMESPACE" = ""
  group : env "SUBVOLUME_GROUP" = ""
  username : env "ROOK_EXTERNAL_USERNAME" = checker
  opens : ∃ found, us checker = some found ∧ env "ROOK_EXTERNAL_USER_SECRET" = found.key
  rbdNode : HasDriver env us "client.csi-rbd-node" "CSI_RBD_NODE_SECRET_NAME"
    "CSI_RBD_NODE_SECRET"
  rbdProvisioner : HasDriver env us "client.csi-rbd-provisioner"
    "CSI_RBD_PROVISIONER_SECRET_NAME" "CSI_RBD_PROVISIONER_SECRET"
  cephfs : env "CEPHFS_FS_NAME" ≠ "" ∧ env "CEPHFS_POOL_NAME" ≠ "" ∧
      HasDriver env us "client.csi-cephfs-node" "CSI_CEPHFS_NODE_SECRET_NAME"
        "CSI_CEPHFS_NODE_SECRET" ∧
      HasDriver env us "client.csi-cephfs-provisioner" "CSI_CEPHFS_PROVISIONER_SECRET_NAME"
        "CSI_CEPHFS_PROVISIONER_SECRET" ∨
    (env "CEPHFS_FS_NAME" = "" ∨ env "CEPHFS_POOL_NAME" = "") ∧
      env "CSI_CEPHFS_NODE_SECRET" = "" ∧ env "CSI_CEPHFS_PROVISIONER_SECRET" = ""

variable {details : Details} {us : Users}

theorem envAfter_text (hvalid : Valid details us) {key text : String} (hkey : key ∉ excludedKeys)
    (htext : getOut details.outMap key = .ok (.text text)) :
    envAfter details.outMap key = text :=
  envAfter_of_text (nodup_outKeys.sublist (keys_sublist hvalid)) hkey htext

theorem hasDriver_of_handed (hvalid : Valid details us) (hkeys : HasKeys us)
    {user nameKey secretKey : String} (hdriver : user ∈ driverUsers)
    (hname : nameKey ∉ excludedKeys) (hsecret : secretKey ∉ excludedKeys)
    {secret : Option String × String} (hhanded : HandedCsi details.args user us secret)
    (hgetName : getOut details.outMap nameKey = .ok (.text secret.2))
    (hgetSecret : getOut details.outMap secretKey = .ok (.ofOption secret.1)) :
    HasDriver (envAfter details.outMap) us user nameKey secretKey := by
  have hbase : ∀ user ∈ driverUsers, user ∈ baseUsers ∧ user ≠ "client.healthchecker" := by
    decide
  obtain ⟨huser, hcsi⟩ := hbase user hdriver
  have hne := name_ne_empty huser hcsi hhanded
  obtain ⟨⟨newCap, hcaps⟩, found, hfound, hkey⟩ := hhanded
  rw [hkey] at hgetSecret
  have henvName := envAfter_text hvalid hname hgetName
  have henvSecret := envAfter_text hvalid hsecret hgetSecret
  exact {
    driver := hdriver
    base := henvName.symm ▸ prefix_of_base huser hcsi hcaps
    opens := ⟨found, by rw [henvName, hfound], henvSecret⟩
    name_ne := henvName.symm ▸ hne
    secret_ne := henvSecret.symm ▸ hkeys _ found hfound }

theorem envAfter_absent (hvalid : Valid details us) {key : String} (hkey : key ∉ excludedKeys)
    (habsent : key ∉ outKeys) : envAfter details.outMap key = "" :=
  envAfter_of_none (nodup_outKeys.sublist (keys_sublist hvalid)) hkey
    (fun hmem => habsent ((keys_sublist hvalid).subset hmem))

theorem cephfs_of_valid (hvalid : Valid details us) (hkeys : HasKeys us) :
    (details.args.cephfsFilesystemName ≠ "" ∧ details.args.cephfsDataPoolName ≠ "") ∧
        HasDriver (envAfter details.outMap) us "client.csi-cephfs-node"
          "CSI_CEPHFS_NODE_SECRET_NAME" "CSI_CEPHFS_NODE_SECRET" ∧
        HasDriver (envAfter details.outMap) us "client.csi-cephfs-provisioner"
          "CSI_CEPHFS_PROVISIONER_SECRET_NAME" "CSI_CEPHFS_PROVISIONER_SECRET" ∨
      ¬ (details.args.cephfsFilesystemName ≠ "" ∧ details.args.cephfsDataPoolName ≠ "") ∧
        envAfter details.outMap "CSI_CEPHFS_NODE_SECRET" = "" ∧
        envAfter details.outMap "CSI_CEPHFS_PROVISIONER_SECRET" = "" := by
  have hout := hvalid.cephfs
  rw [CephfsOut] at hout
  split at hout
  · rename_i hnames
    obtain ⟨node, provisioner, hout, hnode, hprovisioner⟩ := hout
    refine Or.inl ⟨hnames, ?_, ?_⟩
    · exact hasDriver_of_handed hvalid hkeys (by decide) (by decide) (by decide) hnode
        (by simp [getOut, Details.outMap, hout, cephfsOut, List.lookup_cons])
        (by simp [getOut, Details.outMap, hout, cephfsOut, List.lookup_cons])
    · exact hasDriver_of_handed hvalid hkeys (by decide) (by decide) (by decide) hprovisioner
        (by simp [getOut, Details.outMap, hout, cephfsOut, List.lookup_cons])
        (by simp [getOut, Details.outMap, hout, cephfsOut, List.lookup_cons])
  · rename_i hnames
    refine Or.inr ⟨hnames, ?_, ?_⟩
    · exact envAfter_text hvalid (by decide)
        (by simp [getOut, Details.outMap, hout, noCephfsOut, List.lookup_cons])
    · exact envAfter_text hvalid (by decide)
        (by simp [getOut, Details.outMap, hout, noCephfsOut, List.lookup_cons])

theorem envComplete_of_valid (hvalid : Valid details us) (hkeys : HasKeys us)
    (hfsid : details.fsid ≠ some "") (hchecker : details.args.runAsUser ≠ "") :
    EnvComplete (envAfter details.outMap) := by
  have hadmin : adminSecret (envAfter details.outMap) = "admin-secret" :=
    if_pos (envAfter_absent hvalid (by decide) (by decide))
  have hfeatures : rbdFeatures (envAfter details.outMap) = "layering" :=
    if_pos (envAfter_absent hvalid (by decide) (by decide))
  obtain ⟨fsid, hsome⟩ := hvalid.fsid
  obtain ⟨monData, hmonData, hmonDataNe⟩ := hvalid.monData
  obtain ⟨found, hfound, hkey⟩ := hvalid.checker
  have hgetFsid : envAfter details.outMap "ROOK_EXTERNAL_FSID" = fsid :=
    envAfter_text hvalid (by decide)
      (by simp [getOut, Details.outMap, hsome, Value.ofOption, List.lookup_cons])
  have hgetMonData : envAfter details.outMap "ROOK_EXTERNAL_CEPH_MON_DATA" = monData :=
    envAfter_text hvalid (by decide)
      (by simp [getOut, Details.outMap, hmonData, Value.ofOption, List.lookup_cons])
  have hgetSecret : envAfter details.outMap "ROOK_EXTERNAL_USER_SECRET" = found.key :=
    envAfter_text hvalid (by decide)
      (by simp [getOut, Details.outMap, hkey, Value.ofOption, List.lookup_cons])
  have hgetUser : envAfter details.outMap "ROOK_EXTERNAL_USERNAME" = details.args.runAsUser :=
    envAfter_text hvalid (by decide) (by simp [getOut, Details.outMap, List.lookup_cons])
  exact {
    features := by rw [hfeatures]
    fsid := by
      rw [hgetFsid]
      rintro rfl
      exact hfsid hsome
    monData := hgetMonData.symm ▸ hmonDataNe
    user := fun _ => ⟨hgetSecret.symm ▸ hkeys _ found hfound, hgetUser.symm ▸ hchecker⟩
    admin := fun hne => absurd hadmin hne }

theorem handsOut_of_valid (hvalid : Valid details us) (hkeys : HasKeys us)
    (hfsid : details.fsid ≠ some "") (hchecker : details.args.runAsUser ≠ "")
    (hrados : details.args.radosNamespace = "") (hgroup : details.args.subvolumeGroup = "") :
    HandsOut (envAfter details.outMap) us details.args.runAsUser where
  complete := envComplete_of_valid hvalid hkeys hfsid hchecker
  rados := envAfter_text hvalid (by decide)
    (by simp [getOut, Details.outMap, hrados, List.lookup_cons])
  group := envAfter_text hvalid (by decide)
    (by simp [getOut, Details.outMap, hgroup, List.lookup_cons])
  username := envAfter_text hvalid (by decide) (by simp [getOut, Details.outMap, List.lookup_cons])
  opens := by
    obtain ⟨found, hfound, hkey⟩ := hvalid.checker
    exact ⟨found, hfound, envAfter_text hvalid (by decide)
      (by simp [getOut, Details.outMap, hkey, Value.ofOption, List.lookup_cons])⟩
  rbdNode := hasDriver_of_handed hvalid hkeys (by decide) (by decide) (by decide)
    hvalid.rbdNode (by simp [getOut, Details.outMap, List.lookup_cons])
    (by simp [getOut, Details.outMap, List.lookup_cons])
  rbdProvisioner := hasDriver_of_handed hvalid hkeys (by decide) (by decide) (by decide)
    hvalid.rbdProvisioner (by simp [getOut, Details.outMap, List.lookup_cons])
    (by simp [getOut, Details.outMap, List.lookup_cons])
  cephfs := by
    have hfs : envAfter details.outMap "CEPHFS_FS_NAME" = details.args.cephfsFilesystemName :=
      envAfter_text hvalid (by decide) (by simp [getOut, Details.outMap, List.lookup_cons])
    have hpool : envAfter details.outMap "CEPHFS_POOL_NAME" = details.args.cephfsDataPoolName :=
      envAfter_text hvalid (by decide) (by simp [getOut, Details.outMap, List.lookup_cons])
    rw [hfs, hpool, ← and_assoc]
    refine (cephfs_of_valid hvalid hkeys).imp id (fun h => ⟨?_, h.2⟩)
    by_contra hnames
    exact h.1 (not_or.mp hnames)

end Variables

section Import

variable {env : Env} {us : Users} {checker : String}

theorem onlyIf_sublist (env : Env) (keys : List String) (objs : List Object) :
    List.Sublist (onlyIf env keys objs) objs := by
  rw [onlyIf]
  split
  · exact List.Sublist.refl objs
  · exact List.nil_sublist objs

theorem HasDriver.names_ne {user user' nameKey secretKey nameKey' secretKey' : String}
    (h : HasDriver env us user nameKey secretKey)
    (h' : HasDriver env us user' nameKey' secretKey') (hne : user ≠ user') :
    env nameKey ≠ env nameKey' := by
  have hbases : ∀ user ∈ driverUsers, ∀ user' ∈ driverUsers, user.toList <+: user'.toList →
      user = user' := by decide +kernel
  intro heq
  have hbase' := h'.base
  rw [← heq] at hbase'
  rcases List.prefix_or_prefix_of_prefix h.base hbase' with hle | hle
  · exact hne (hbases user h.driver user' h'.driver hle)
  · exact hne (hbases user' h'.driver user h.driver hle).symm

theorem HasDriver.ne_mon {user nameKey secretKey : String}
    (h : HasDriver env us user nameKey secretKey) : "rook-ceph-mon" ≠ "rook-" ++ env nameKey := by
  have hbases : ∀ user ∈ driverUsers, ¬ user.toList <+: ("client." ++ "ceph-mon").toList := by
    decide +kernel
  have hmon : "rook-ceph-mon" = "rook-" ++ "ceph-mon" := by decide +kernel
  rw [hmon]
  intro heq
  rw [String.append_right_inj] at heq
  exact hbases user h.driver (heq ▸ h.base)

theorem rgw_ne_rook (name : String) : "rgw-admin-ops-user" ≠ "rook-" ++ name := by
  have hno : ¬ "rook-".toList <+: "rgw-admin-ops-user".toList := by decide +kernel
  intro heq
  refine hno ?_
  rw [heq, String.toList_append]
  exact List.prefix_append _ _

theorem map_ref_onlyIf (env : Env) (keys : List String) (obj : Object) :
    List.Sublist ((onlyIf env keys [obj]).map Object.ref) [obj.ref] :=
  (onlyIf_sublist env keys [obj]).map Object.ref

theorem sublist_imported (hrados : env "RADOS_NAMESPACE" = "")
    (hgroup : env "SUBVOLUME_GROUP" = "") {cephfsRefs : List Ref}
    (hcephfs : List.Sublist
      ((onlyIf env ["CSI_CEPHFS_NODE_SECRET_NAME", "CSI_CEPHFS_NODE_SECRET"]
        [cephfsNodeSecret env]).map Object.ref ++
      (onlyIf env ["CSI_CEPHFS_PROVISIONER_SECRET_NAME", "CSI_CEPHFS_PROVISIONER_SECRET"]
        [cephfsProvisionerSecret env]).map Object.ref) cephfsRefs) :
    List.Sublist ((importedObjects env (plainIds env)).map Object.ref)
      ([(clusterNamespace env).ref, (monSecret env).ref, (monEndpoints env).ref,
        (rbdNodeSecret env).ref, (rbdProvisionerSecret env).ref, (rgwAdminOpsUser env).ref] ++
      cephfsRefs ++ [⟨"StorageClass", "", "ceph-rbd"⟩, ⟨"StorageClass", "", "cephfs"⟩]) := by
  have hnone : groupObjects env = [] := by
    rw [groupObjects, onlyIf_of_eq hrados, onlyIf_of_eq hgroup, List.append_nil]
  have hrbd : List.Sublist ((onlyIf env ["RBD_POOL_NAME"]
      (if env "RBD_METADATA_EC_POOL_NAME" ≠ "" then
          [(ecRBDStorageClass env (plainIds env).1).asWritten]
        else [(plainRBDStorageClass env (plainIds env).1).asWritten])).map Object.ref)
      [⟨"StorageClass", "", "ceph-rbd"⟩] := by
    split <;> exact map_ref_onlyIf env _ _
  have hfs : List.Sublist ((onlyIf env ["CEPHFS_FS_NAME", "CEPHFS_POOL_NAME"]
      [(cephfsStorageClass env (plainIds env).2).asWritten]).map Object.ref)
      [⟨"StorageClass", "", "cephfs"⟩] := map_ref_onlyIf env _ _
  have hdrivers := (map_ref_onlyIf env ["CSI_RBD_NODE_SECRET_NAME", "CSI_RBD_NODE_SECRET"]
    (rbdNodeSecret env)).append ((map_ref_onlyIf env ["CSI_RBD_PROVISIONER_SECRET_NAME",
      "CSI_RBD_PROVISIONER_SECRET"] (rbdProvisionerSecret env)).append
    ((map_ref_onlyIf env ["RGW_ADMIN_OPS_USER_ACCESS_KEY", "RGW_ADMIN_OPS_USER_SECRET_KEY"]
      (rgwAdminOpsUser env)).append (hcephfs.append (hrbd.append hfs))))
  have hfirst := (List.Sublist.refl [(clusterNamespace env).ref, (monSecret env).ref,
    (monEndpoints env).ref]).append hdrivers
  rw [importedObjects, hnone, laterObjects]
  simpa only [List.map_append, List.map_cons, List.map_nil, List.nil_append, List.append_assoc,
    List.cons_append] using hfirst

theorem HandsOut.nodup (h : HandsOut env us checker) :
    ((importedObjects env (plainIds env)).map Object.ref).Nodup := by
  have hrbd := h.rbdNode.names_ne h.rbdProvisioner (by decide)
  have hrgw := fun nameKey => (rgw_ne_rook (env nameKey)).symm
  rcases h.cephfs with ⟨-, -, hnode, hprovisioner⟩ | ⟨-, hnode, hprovisioner⟩
  · refine List.Nodup.sublist (sublist_imported h.rados h.group
      ((map_ref_onlyIf _ _ _).append (map_ref_onlyIf _ _ _))) ?_
    have hcephfs := hnode.names_ne hprovisioner (by decide)
    have hnodes := h.rbdNode.names_ne hnode (by decide)
    have hnodeProvisioner := h.rbdNode.names_ne hprovisioner (by decide)
    have hprovisionerNode := h.rbdProvisioner.names_ne hnode (by decide)
    have hprovisioners := h.rbdProvisioner.names_ne hprovisioner (by decide)
    simp [clusterNamespace, monSecret, monEndpoints, rbdNodeSecret, rbdProvisionerSecret,
      rgwAdminOpsUser, cephfsNodeSecret, cephfsProvisionerSecret, driverSecret, rookSecret,
      String.append_right_inj, h.rbdNode.ne_mon, h.rbdProvisioner.ne_mon, hnode.ne_mon,
      hprovisioner.ne_mon, rgw_ne_rook, hrgw, hrbd, hcephfs, hnodes, hnodeProvisioner,
      hprovisionerNode, hprovisioners]
  · refine List.Nodup.sublist (sublist_imported h.rados h.group (List.Sublist.refl _)) ?_
    simp [clusterNamespace, monSecret, monEndpoints, rbdNodeSecret, rbdProvisionerSecret,
      rgwAdminOpsUser, driverSecret, rookSecret, String.append_right_inj, h.rbdNode.ne_mon,
      h.rbdProvisioner.ne_mon, hrgw, hrbd, onlyIf, hnode, hprovisioner]

theorem mem_onlyIf {keys : List String} {objs : List Object} {obj : Object} :
    obj ∈ onlyIf env keys objs ↔ (∀ key ∈ keys, env key ≠ "") ∧ obj ∈ objs := by
  simp only [onlyIf, List.mem_ite_nil_right, List.all_eq_true, bne_iff_ne]

theorem not_secret {fields : List (String × Scalar)}
    (h : fields.all (fun field => field.1 ∉ secretFields)) {field : String × Scalar}
    (hfield : field ∈ fields) : field.1 ∉ secretFields := by
  simpa using List.all_eq_true.mp h field hfield

theorem mem_rbdStorageClass {clusterId : String} {pools : List (String × Scalar)}
    (hpools : ∀ pool ∈ pools, pool.1 ∉ secretFields) {field : String × Scalar}
    (h : field ∈ (rbdStorageClass env clusterId pools).fields) (hname : field.1 ∈ secretFields) :
    field ∈ secretParameters env "CSI_RBD_PROVISIONER_SECRET_NAME" "CSI_RBD_NODE_SECRET_NAME" := by
  simp only [rbdStorageClass, List.mem_append] at h
  rcases h with (((hfield | hfield) | hfield) | hfield) | hfield
  · exact absurd hname (not_secret (by simp [secretFields]) hfield)
  · exact absurd hname (hpools field hfield)
  · exact absurd hname (not_secret (by simp [secretFields]) hfield)
  · exact hfield
  · exact absurd hname (not_secret (by simp [secretFields]) hfield)

theorem mem_cephfsStorageClass {clusterId : String} {field : String × Scalar}
    (h : field ∈ (cephfsStorageClass env clusterId).fields) (hname : field.1 ∈ secretFields) :
    field ∈ secretParameters env "CSI_CEPHFS_PROVISIONER_SECRET_NAME"
      "CSI_CEPHFS_NODE_SECRET_NAME" := by
  simp only [cephfsStorageClass, List.mem_append] at h
  rcases h with (hfield | hfield) | hfield
  · exact absurd hname (not_secret (by simp [secretFields]) hfield)
  · exact hfield
  · exact absurd hname (not_secret (by simp [secretFields]) hfield)

def NamesSecrets (env : Env) (provisionerKey nodeKey : String) (obj : Object) : Prop :=
  ∀ field ∈ obj.fields, field.1 ∈ secretFields →
    field.2 = "rook-" ++ env provisionerKey ∨ field.2 = "rook-" ++ env nodeKey

theorem namesSecrets_asWritten {provisionerKey nodeKey : String} {m : Manifest}
    (h : ∀ field ∈ m.fields, field.1 ∈ secretFields →
      field ∈ secretParameters env provisionerKey nodeKey) :
    NamesSecrets env provisionerKey nodeKey m.asWritten := by
  rintro field hfield hname
  obtain ⟨raw, hraw, rfl⟩ := List.mem_map.mp hfield
  have hparameter := h raw hraw hname
  simp only [secretParameters, List.mem_cons, List.not_mem_nil, or_false] at hparameter
  rcases hparameter with rfl | rfl | rfl | rfl | rfl | rfl <;>
    simp [secretFields, Scalar.text] at hname ⊢

theorem mem_imported_class {clusterIds : String × String} {obj : Object}
    (h : obj ∈ importedObjects env clusterIds) (hkind : obj.ref.kind = "StorageClass") :
    NamesSecrets env "CSI_RBD_PROVISIONER_SECRET_NAME" "CSI_RBD_NODE_SECRET_NAME" obj ∨
      (env "CEPHFS_FS_NAME" ≠ "" ∧ env "CEPHFS_POOL_NAME" ≠ "") ∧
        NamesSecrets env "CSI_CEPHFS_PROVISIONER_SECRET_NAME" "CSI_CEPHFS_NODE_SECRET_NAME"
          obj := by
  simp only [importedObjects, groupObjects, laterObjects, List.mem_append, mem_onlyIf,
    List.mem_singleton] at h
  rcases h with rfl | (⟨-, rfl⟩ | ⟨-, rfl⟩) | rfl | rfl | ⟨-, rfl⟩ | ⟨-, rfl⟩ | ⟨-, rfl⟩ |
    ⟨-, rfl⟩ | ⟨-, rfl⟩ | ⟨-, hrbd⟩ | ⟨hset, rfl⟩
  any_goals
    simp [clusterNamespace, radosNamespaceCR, subvolumeGroupCR, Manifest.asWritten, monSecret,
      monEndpoints, rbdNodeSecret, rbdProvisionerSecret, rgwAdminOpsUser, cephfsNodeSecret,
      cephfsProvisionerSecret, driverSecret, rookSecret] at hkind
  · left
    split at hrbd <;> obtain rfl := List.mem_singleton.mp hrbd <;>
      exact namesSecrets_asWritten fun field => mem_rbdStorageClass (by simp [secretFields])
  · exact Or.inr ⟨⟨hset _ (by simp), hset _ (by simp)⟩,
      namesSecrets_asWritten fun field => mem_cephfsStorageClass⟩

def HoldsKey (us : Users) (os : Objects) (ns secret : String) : Prop :=
  ∃ name user, us ("client." ++ name) = some user ∧ secret = "rook-" ++ name ∧
    ∃ fields ∈ [("userID", "userKey"), ("adminID", "adminKey")],
      os ⟨"Secret", ns, secret⟩ =
        some [("type", "kubernetes.io/rook"), (fields.1, name), (fields.2, user.key)]

/-- What Kubernetes needs to reach the cluster: the monitors let its operator in, and the
storage classes are there with the secrets that they name. -/
structure HandedOver (env : Env) (us : Users) (checker : String) (os : Objects) : Prop where
  operator : ∃ user fields, us checker = some user ∧ os (monSecret env).ref = some fields ∧
    ("ceph-username", checker) ∈ fields ∧ ("ceph-secret", user.key) ∈ fields
  classes : ∀ obj ∈ importedObjects env (plainIds env), obj.ref.kind = "StorageClass" →
    os obj.ref = some obj.fields ∧ ∀ field ∈ obj.fields, field.1 ∈ secretFields →
      HoldsKey us os (namespaceOf env) field.2

theorem HoldsKey.mono {us us' : Users} {os os' : Objects} {ns secret : String}
    (h : HoldsKey us os ns secret)
    (husers : ∀ e user, us e = some user → ∃ user', us' e = some user' ∧ user'.key = user.key)
    (hobjects : ∀ ref fields, os ref = some fields → os' ref = some fields) :
    HoldsKey us' os' ns secret := by
  obtain ⟨name, user, huser, hname, fields, hfields, hobj⟩ := h
  obtain ⟨user', huser', hkey⟩ := husers _ user huser
  refine ⟨name, user', huser', hname, fields, hfields, ?_⟩
  rw [hkey]
  exact hobjects _ _ hobj

theorem HandedOver.mono {env : Env} {checker : String} {us us' : Users} {os os' : Objects}
    (h : HandedOver env us checker os)
    (husers : ∀ e user, us e = some user → ∃ user', us' e = some user' ∧ user'.key = user.key)
    (hobjects : ∀ ref fields, os ref = some fields → os' ref = some fields) :
    HandedOver env us' checker os' where
  operator := by
    obtain ⟨user, fields, huser, hobj, hname, hsecret⟩ := h.operator
    obtain ⟨user', huser', hkey⟩ := husers _ user huser
    exact ⟨user', fields, huser', hobjects _ _ hobj, hname, hkey ▸ hsecret⟩
  classes obj hobj hkind := by
    obtain ⟨hclass, hsecrets⟩ := h.classes obj hobj hkind
    exact ⟨hobjects _ _ hclass, fun field hfield hname =>
      (hsecrets field hfield hname).mono husers hobjects⟩

theorem holdsKey_of_driver {user nameKey secretKey idField keyField : String}
    (h : HasDriver env us user nameKey secretKey)
    (hfields : (idField, keyField) ∈ [("userID", "userKey"), ("adminID", "adminKey")])
    {os : Objects} (hobj : os (driverSecret env nameKey secretKey idField keyField).ref =
      some (driverSecret env nameKey secretKey idField keyField).fields) :
    HoldsKey us os (namespaceOf env) ("rook-" ++ env nameKey) := by
  obtain ⟨found, hfound, hkey⟩ := h.opens
  refine ⟨env nameKey, found, hfound, rfl, _, hfields, ?_⟩
  rw [← hkey]
  exact hobj

theorem HandsOut.handedOver (h : HandsOut env us checker) {os os' : Objects}
    (hinstalled : Installed (importedObjects env (plainIds env)) os os') :
    HandedOver env us checker os' where
  operator := by
    obtain ⟨found, hfound, hkey⟩ := h.opens
    have hmon := hinstalled.installed (monSecret env) (by simp [importedObjects, laterObjects])
    refine ⟨found, _, hfound, hmon, ?_, ?_⟩
    · simp [monSecret, rookSecret, h.username]
    · simp [monSecret, rookSecret, hkey]
  classes obj hobj hkind := by
    refine ⟨hinstalled.installed obj hobj, fun field hfield hname => ?_⟩
    rcases mem_imported_class hobj hkind with hrbd | ⟨⟨hfs, hpool⟩, hcephfs⟩
    · have hprovisioner := hinstalled.installed (rbdProvisionerSecret env)
        (by simp [importedObjects, laterObjects, mem_onlyIf, h.rbdProvisioner.name_ne,
          h.rbdProvisioner.secret_ne])
      have hnode := hinstalled.installed (rbdNodeSecret env)
        (by simp [importedObjects, laterObjects, mem_onlyIf, h.rbdNode.name_ne,
          h.rbdNode.secret_ne])
      rcases hrbd field hfield hname with hvalue | hvalue
      · exact hvalue ▸ holdsKey_of_driver h.rbdProvisioner (by simp) hprovisioner
      · exact hvalue ▸ holdsKey_of_driver h.rbdNode (by simp) hnode
    · obtain ⟨-, -, hnodeUser, hprovisionerUser⟩ :=
        h.cephfs.resolve_right (fun hnone => hnone.1.elim hfs hpool)
      have hprovisioner := hinstalled.installed (cephfsProvisionerSecret env)
        (by simp [importedObjects, laterObjects, mem_onlyIf, hprovisionerUser.name_ne,
          hprovisionerUser.secret_ne])
      have hnode := hinstalled.installed (cephfsNodeSecret env)
        (by simp [importedObjects, laterObjects, mem_onlyIf, hnodeUser.name_ne,
          hnodeUser.secret_ne])
      rcases hcephfs field hfield hname with hvalue | hvalue
      · exact hvalue ▸ holdsKey_of_driver hprovisionerUser (by simp) hprovisioner
      · exact hvalue ▸ holdsKey_of_driver hnodeUser (by simp) hnode

theorem HandsOut.ends_importScript {σ : Type} {kube : Party KubeOp KubeReply σ}
    {objects : σ → Objects} (laws : KubeReliable kube objects) (h : HandsOut env us checker)
    (himportable : Importable env) (k : σ)
    (hfree : ∀ obj ∈ importedObjects env (plainIds env), ∀ fields,
      objects k obj.ref = some fields → fields = obj.fields) :
    Ends kube (importScript env) k (fun _ k' => HandedOver env us checker (objects k'))
      (fun _ _ => False) := by
  have hends := leads_importScript_completes env laws h.complete himportable h.rados h.group _ k
    rfl
  have hprovides := provides_importScript env laws.toKubeLaws h.rados h.group _ k rfl
  refine (hprovides.and hends).mono ?_ (fun _ _ hfalse => hfalse.2)
  rintro _ k' ⟨hinstalled, -⟩
  obtain ⟨hadded, hpresent⟩ := hinstalled himportable.toYamlPlain
  exact h.handedOver (installed_of_added h.nodup hfree hadded hpresent)

end Import

section Script

variable {σ τ : Type} {party : Party Op Reply σ} {users : σ → Users}
  {kube : Party KubeOp KubeReply τ} {objects : τ → Objects} (py : Python)

/-- No value has a character with a meaning for the shell, and the cluster has an identifier. -/
structure Readable (out : OutMap) : Prop where
  plain : ∀ var ∈ exported out, ∀ ch ∈ var.2.toList, isPlainChar ch = true
  fsid : getOut out "ROOK_EXTERNAL_FSID" ≠ .ok (.text "")

theorem plainVar_of_valid {details : Details} {us : Users} (hvalid : Valid details us)
    (hreadable : Readable details.outMap) : ∀ var ∈ exported details.outMap, PlainVar var := by
  intro var hvar
  have hkey : var.1 ∈ outKeys := by
    obtain ⟨entry, hentry, rfl⟩ := List.mem_map.mp hvar
    exact (keys_sublist hvalid).subset (List.mem_map_of_mem (List.mem_of_mem_filter hentry))
  obtain ⟨hne, hname⟩ := names_outKeys hkey
  exact ⟨hne, hname, hreadable.plain var hvar⟩

end Script

section Plain

instance (out : OutMap) : Decidable (Readable out) :=
  decidable_of_iff ((exported out).all (fun var => var.2.toList.all isPlainChar) = true ∧
      getOut out "ROOK_EXTERNAL_FSID" ≠ .ok (.text ""))
    ⟨fun h => ⟨by simpa using h.1, h.2⟩, fun h => ⟨by simpa using h.plain, h.fsid⟩⟩

def passesOn : Except Stop OutMap → Bool
  | .ok out => decide (Readable out) && decide (Importable (envAfter out))
  | .error _ => false

theorem passesOn_older : passesOn ((genOutputMap asciiPython (exportArgs replicapoolArgs)).run
    plainParty olderCluster).1 = true := by
  decide +kernel

end Plain

end MigrateImageRepository.ExternalCluster.Handoff
