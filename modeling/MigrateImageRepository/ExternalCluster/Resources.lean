import MigrateImageRepository.ExternalCluster.Runs

/-! The resources of the JSON output.
An export that is no dry run hands out secrets that open the cluster, and every secret
that one of its storage classes names is among the resources. A file system without a data
pool stops the output with an error. -/

namespace MigrateImageRepository.ExternalCluster.Resources
open Dialogue Dialogue.Prog Cluster Created Export Requests Upgrade Users

theorem concatParts_eq_ok {parts : List (Except Stop (List Resource))} {all : List Resource} :
    concatParts parts = .ok all ↔
      ∃ lists : List (List Resource), parts = lists.map .ok ∧ all = lists.flatten := by
  induction parts generalizing all with
  | nil => simp [concatParts, eq_comm]
  | cons part parts ih =>
    simp only [concatParts, bind_eq_ok, ih]
    constructor
    · rintro ⟨resources, rfl, _, ⟨lists, rfl, rfl⟩, hall⟩
      cases hall
      exact ⟨resources :: lists, rfl, rfl⟩
    · rintro ⟨_ | ⟨resources, lists⟩, hparts, rfl⟩
      · cases hparts
      · cases hparts
        exact ⟨resources, rfl, _, ⟨lists, rfl, rfl⟩, rfl⟩

def secretFields : List String :=
  ["csi.storage.k8s.io/provisioner-secret-name", "csi.storage.k8s.io/controller-expand-secret-name",
    "csi.storage.k8s.io/node-stage-secret-name"]

section Parts

variable {out : OutMap} {resources : List Resource}

theorem kind_clusterResources (h : clusterResources out = .ok resources) :
    ∀ r ∈ resources, r.kind ≠ "StorageClass" := by
  simp only [clusterResources, bind_eq_ok] at h
  obtain ⟨_, _, _, _, _, _, _, _, h⟩ := h
  cases h
  simp

theorem kind_monitoringResources (h : monitoringResources out = .ok resources) :
    ∀ r ∈ resources, r.kind ≠ "StorageClass" := by
  simp only [monitoringResources, bind_eq_ok] at h
  obtain ⟨_, _, h⟩ := h
  split at h
  · simp only [bind_eq_ok] at h
    obtain ⟨_, _, h⟩ := h
    split at h <;> cases h <;> simp
  · cases h
    simp

theorem kind_csiSecret {secretKey nameKey idField keyField : String}
    (h : csiSecret out secretKey nameKey idField keyField = .ok resources) :
    ∀ r ∈ resources, r.kind ≠ "StorageClass" := by
  simp only [csiSecret, bind_eq_ok] at h
  obtain ⟨_, _, h⟩ := h
  split at h
  · simp only [bind_eq_ok] at h
    obtain ⟨_, _, h⟩ := h
    split at h <;> cases h <;> simp
  · cases h
    simp

theorem kind_dashboardResources (h : dashboardResources out = .ok resources) :
    ∀ r ∈ resources, r.kind ≠ "StorageClass" := by
  simp only [dashboardResources, bind_eq_ok] at h
  obtain ⟨_, _, h⟩ := h
  split at h <;> cases h <;> simp

theorem kind_tlsResources (h : tlsResources out = .ok resources) :
    ∀ r ∈ resources, r.kind ≠ "StorageClass" := by
  simp only [tlsResources, bind_eq_ok] at h
  obtain ⟨_, _, h⟩ := h
  split at h <;> cases h <;> simp

theorem fields_rgwResources (h : rgwResources out = .ok resources) :
    ∀ r ∈ resources, ∀ field ∈ r.data, field.1 ∉ secretFields := by
  simp only [rgwResources, bind_eq_ok] at h
  obtain ⟨_, _, h⟩ := h
  split at h
  · simp only [bind_eq_ok] at h
    obtain ⟨_, _, _, _, _, _, h⟩ := h
    cases h
    simp only [List.forall_mem_cons]
    simp [secretFields]
  · cases h
    simp

def NamesSecret (out : OutMap) (value : Value) : Prop :=
  ∃ nameKey ∈ ["CSI_RBD_NODE_SECRET_NAME", "CSI_RBD_PROVISIONER_SECRET_NAME",
      "CSI_CEPHFS_NODE_SECRET_NAME", "CSI_CEPHFS_PROVISIONER_SECRET_NAME"],
    ∃ name, getOut out nameKey = .ok name ∧ value = .text ("rook-" ++ name.str)

theorem fields_rbdResources (h : rbdResources out = .ok resources) :
    ∀ r ∈ resources, ∀ field ∈ r.data, field.1 ∈ secretFields → NamesSecret out field.2 := by
  simp only [rbdResources, secretNames, bind_eq_ok] at h
  obtain ⟨_, _, _, _, _, _, _, _, _, ⟨provisioner, hprovisioner, node, hnode, hsecrets⟩, h⟩ := h
  cases hsecrets
  have hp : NamesSecret out (.text ("rook-" ++ provisioner.str)) :=
    ⟨_, by simp, provisioner, hprovisioner, rfl⟩
  have hn : NamesSecret out (.text ("rook-" ++ node.str)) := ⟨_, by simp, node, hnode, rfl⟩
  split at h
  · cases h
    simp only [List.forall_mem_cons]
    simp [secretFields, hp, hn]
  · split at h
    · cases h
      simp only [List.cons_append, List.forall_mem_cons]
      simp [secretFields, hp, hn]
    · cases h
      simp only [List.forall_mem_cons]
      simp [secretFields, hp, hn]

theorem fields_cephfsResources (h : cephfsResources out = .ok resources) :
    ∀ r ∈ resources, ∀ field ∈ r.data, field.1 ∈ secretFields → NamesSecret out field.2 := by
  simp only [cephfsResources, secretNames, bind_eq_ok] at h
  obtain ⟨_, _, h⟩ := h
  split at h
  · simp only [bind_eq_ok] at h
    obtain ⟨_, _, _, ⟨provisioner, hprovisioner, node, hnode, hsecrets⟩, h⟩ := h
    cases hsecrets
    cases h
    have hp : NamesSecret out (.text ("rook-" ++ provisioner.str)) :=
      ⟨_, by simp, provisioner, hprovisioner, rfl⟩
    have hn : NamesSecret out (.text ("rook-" ++ node.str)) := ⟨_, by simp, node, hnode, rfl⟩
    simp only [List.cons_append, List.forall_mem_cons]
    simp [secretFields, hp, hn]
  · cases h
    simp

theorem namesSecret_of_storageClass {part : Except Stop (List Resource)}
    (hpart : part ∈ jsonParts out) (h : part = .ok resources) {r : Resource}
    (hr : r ∈ resources) (hkind : r.kind = "StorageClass") {field : String × Value}
    (hfield : field ∈ r.data) (hname : field.1 ∈ secretFields) : NamesSecret out field.2 := by
  simp only [jsonParts, List.mem_cons, List.not_mem_nil, or_false] at hpart
  rcases hpart with rfl | rfl | rfl | rfl | rfl | rfl | rfl | rfl | rfl | rfl | rfl
  · exact absurd hkind (kind_clusterResources h r hr)
  · exact absurd hkind (kind_monitoringResources h r hr)
  · exact absurd hkind (kind_csiSecret h r hr)
  · exact absurd hkind (kind_csiSecret h r hr)
  · exact absurd hkind (kind_csiSecret h r hr)
  · exact absurd hkind (kind_csiSecret h r hr)
  · exact absurd hkind (kind_dashboardResources h r hr)
  · exact fields_rbdResources h r hr field hfield hname
  · exact fields_cephfsResources h r hr field hfield hname
  · exact absurd hname (fields_rgwResources h r hr field hfield)
  · exact absurd hkind (kind_tlsResources h r hr)

end Parts

def HasKeys (us : Users) : Prop := ∀ e user, us e = some user → user.key ≠ ""

def Served (resources : List Resource) (us : Users) (value : Value) : Prop :=
  ∃ name user, us ("client." ++ name) = some user ∧ value = .text ("rook-" ++ name) ∧
    ∃ fields ∈ [("userID", "userKey"), ("adminID", "adminKey")],
      ⟨"rook-" ++ name, "Secret", [(fields.1, .text name), (fields.2, .text user.key)]⟩ ∈ resources

section Served

variable {args : Args} {us : Users} {out : OutMap} {resources : List Resource}

theorem name_ne_empty {user : String} (huser : user ∈ baseUsers)
    (hcsi : user ≠ "client.healthchecker") {secret : Option String × String}
    (h : HandedCsi args user us secret) : secret.2 ≠ "" := by
  obtain ⟨⟨newCap, hcaps⟩, -⟩ := h
  have hstart := (prefix_of_base huser hcsi hcaps).length_le
  have hlong : ∀ user ∈ baseUsers, 7 < user.toList.length := by decide +kernel
  have hseven : "client.".toList.length = 7 := by decide +kernel
  have huserlong := hlong user huser
  intro hempty
  rw [hempty, String.toList_append, List.length_append, hseven] at hstart
  simp at hstart
  omega

theorem served_of_handed (secretKey nameKey idField keyField user : String)
    (hpart : csiSecret out secretKey nameKey idField keyField ∈ jsonParts out)
    (hfields : (idField, keyField) ∈ [("userID", "userKey"), ("adminID", "adminKey")])
    (huser : user ∈ baseUsers) (hcsi : user ≠ "client.healthchecker") (hkeys : HasKeys us)
    (hjson : jsonResources out = .ok resources) {secret : Option String × String}
    (hhanded : HandedCsi args user us secret)
    (hsecret : getOut out secretKey = .ok (.ofOption secret.1))
    (hname : getOut out nameKey = .ok (.text secret.2)) {name : Value}
    (hget : getOut out nameKey = .ok name) : Served resources us (.text ("rook-" ++ name.str)) := by
  rw [hname] at hget
  cases hget
  have hne := name_ne_empty huser hcsi hhanded
  obtain ⟨-, found, hfound, hkey⟩ := hhanded
  have hkeyne := hkeys _ found hfound
  obtain ⟨lists, hlists, rfl⟩ := concatParts_eq_ok.mp hjson
  rw [hlists, List.mem_map] at hpart
  obtain ⟨l, hl, hpart⟩ := hpart
  have hvalue : csiSecret out secretKey nameKey idField keyField =
      .ok [⟨"rook-" ++ secret.2, "Secret",
        [(idField, .text secret.2), (keyField, .text found.key)]⟩] := by
    simp [csiSecret, hsecret, hname, hkey, Value.ofOption, Value.truthy, Value.str, hkeyne, hne,
      bind, Except.bind, pure, Except.pure]
  rw [hvalue, Except.ok.injEq] at hpart
  refine ⟨secret.2, found, hfound, rfl, _, hfields, List.mem_flatten.mpr ⟨l, hl, ?_⟩⟩
  rw [hpart]
  exact List.mem_singleton_self _

theorem getOut_noCephfs {details : Details} (hcephfs : details.cephfs = noCephfsOut)
    (hrgw : RgwOut details.rgw) {nameKey : String}
    (hmem : nameKey ∈ ["CSI_CEPHFS_NODE_SECRET_NAME", "CSI_CEPHFS_PROVISIONER_SECRET_NAME"]) :
    getOut details.outMap nameKey = .error (.keyError nameKey) := by
  simp only [List.mem_cons, List.not_mem_nil, or_false] at hmem
  rcases hrgw with ⟨-, hrgw⟩ | ⟨accessKey, secretKey, hrgw⟩ <;> rcases hmem with rfl | rfl <;>
    simp [getOut, Details.outMap, hcephfs, noCephfsOut, hrgw, List.lookup_cons]

/-- Every secret that a storage class names is among the resources, with the key of a user. -/
def Closed (resources : List Resource) (us : Users) : Prop :=
  ∀ r ∈ resources, r.kind = "StorageClass" →
    ∀ field ∈ r.data, field.1 ∈ secretFields → Served resources us field.2

theorem closed_of_valid {details : Details} (hvalid : Valid details us) (hkeys : HasKeys us)
    (hjson : jsonResources details.outMap = .ok resources) : Closed resources us := by
  intro r hr hkind field hfield hname
  have hnames : NamesSecret details.outMap field.2 := by
    obtain ⟨lists, hlists, rfl⟩ := concatParts_eq_ok.mp hjson
    obtain ⟨l, hl, hrl⟩ := List.mem_flatten.mp hr
    exact namesSecret_of_storageClass (hlists ▸ List.mem_map_of_mem hl) rfl hrl hkind hfield hname
  obtain ⟨nameKey, hmem, name, hget, hvalue⟩ := hnames
  rw [hvalue]
  have hcephfs := hvalid.cephfs
  rw [CephfsOut] at hcephfs
  simp only [List.mem_cons, List.not_mem_nil, or_false] at hmem
  rcases hmem with rfl | rfl | rfl | rfl
  · exact served_of_handed "CSI_RBD_NODE_SECRET" _ "userID" "userKey" "client.csi-rbd-node"
      (by simp [jsonParts]) (by simp) (by decide) (by decide) hkeys hjson hvalid.rbdNode
      (by simp [getOut, Details.outMap, List.lookup_cons])
      (by simp [getOut, Details.outMap, List.lookup_cons]) hget
  · exact served_of_handed "CSI_RBD_PROVISIONER_SECRET" _ "userID" "userKey"
      "client.csi-rbd-provisioner" (by simp [jsonParts]) (by simp) (by decide) (by decide) hkeys
      hjson hvalid.rbdProvisioner (by simp [getOut, Details.outMap, List.lookup_cons])
      (by simp [getOut, Details.outMap, List.lookup_cons]) hget
  · split at hcephfs
    · obtain ⟨node, provisioner, hout, hnode, -⟩ := hcephfs
      exact served_of_handed "CSI_CEPHFS_NODE_SECRET" _ "adminID" "adminKey"
        "client.csi-cephfs-node" (by simp [jsonParts]) (by simp) (by decide) (by decide) hkeys
        hjson hnode (by simp [getOut, Details.outMap, hout, cephfsOut, List.lookup_cons])
        (by simp [getOut, Details.outMap, hout, cephfsOut, List.lookup_cons]) hget
    · rw [getOut_noCephfs hcephfs hvalid.rgw (by simp)] at hget
      cases hget
  · split at hcephfs
    · obtain ⟨node, provisioner, hout, -, hprovisioner⟩ := hcephfs
      exact served_of_handed "CSI_CEPHFS_PROVISIONER_SECRET" _ "adminID" "adminKey"
        "client.csi-cephfs-provisioner" (by simp [jsonParts]) (by simp) (by decide) (by decide)
        hkeys hjson hprovisioner
        (by simp [getOut, Details.outMap, hout, cephfsOut, List.lookup_cons])
        (by simp [getOut, Details.outMap, hout, cephfsOut, List.lookup_cons]) hget
    · rw [getOut_noCephfs hcephfs hvalid.rgw (by simp)] at hget
      cases hget

theorem mem_resources {part : List Resource} (hpart : .ok part ∈ jsonParts out)
    (hjson : jsonResources out = .ok resources) {r : Resource} (hr : r ∈ part) :
    r ∈ resources := by
  obtain ⟨lists, hlists, rfl⟩ := concatParts_eq_ok.mp hjson
  rw [hlists, List.mem_map] at hpart
  obtain ⟨l, hl, hpart⟩ := hpart
  cases hpart
  exact List.mem_flatten.mpr ⟨part, hl, hr⟩

theorem operatorCreds_of_valid {details : Details} (hvalid : Valid details us)
    (hjson : jsonResources details.outMap = .ok resources) :
    ∃ user, us details.args.runAsUser = some user ∧
      ⟨"rook-ceph-operator-creds", "Secret",
        [("userID", .text details.args.runAsUser), ("userKey", .text user.key)]⟩ ∈ resources := by
  obtain ⟨user, huser, hkey⟩ := hvalid.checker
  have hcluster : ∃ part, clusterResources details.outMap = .ok part ∧
      ⟨"rook-ceph-operator-creds", "Secret",
        [("userID", .text details.args.runAsUser), ("userKey", .text user.key)]⟩ ∈ part := by
    simp [clusterResources, getOut, Details.outMap, List.lookup_cons, hkey, Value.ofOption,
      bind, Except.bind, pure, Except.pure]
  obtain ⟨part, hpart, hmem⟩ := hcluster
  exact ⟨user, huser, mem_resources (by rw [← hpart]; simp [jsonParts]) hjson hmem⟩

theorem getOut_of_mem {key : String} (h : key ∈ out.map Prod.fst) :
    ∃ value, getOut out key = .ok value := by
  rw [getOut]
  cases hlookup : out.lookup key with
  | some value => exact ⟨value, rfl⟩
  | none =>
    obtain ⟨entry, hentry, rfl⟩ := List.mem_map.mp h
    have hne := List.lookup_eq_none_iff.mp hlookup entry hentry
    simp at hne

theorem isOk_bind {ε α β : Type} {x : Except ε α} {f : α → Except ε β} (hx : ∃ a, x = .ok a)
    (hf : ∀ a, ∃ b, f a = .ok b) : ∃ b, x >>= f = .ok b := by
  obtain ⟨a, rfl⟩ := hx
  exact hf a

theorem concatParts_isOk {parts : List (Except Stop (List Resource))}
    (h : ∀ part ∈ parts, ∃ l, part = .ok l) : ∃ all, concatParts parts = .ok all := by
  induction parts with
  | nil => exact ⟨[], rfl⟩
  | cons part parts ih =>
    rw [List.forall_mem_cons] at h
    exact isOk_bind h.1 (fun _ => isOk_bind (ih h.2) (fun _ => ⟨_, rfl⟩))

theorem concatParts_of_error {parts rest : List (Except Stop (List Resource))} {stop : Stop}
    (h : ∀ part ∈ parts, ∃ l, part = .ok l) :
    concatParts (parts ++ .error stop :: rest) = .error stop := by
  induction parts with
  | nil => rfl
  | cons part parts ih =>
    rw [List.forall_mem_cons] at h
    obtain ⟨l, rfl⟩ := h.1
    rw [List.cons_append, concatParts, ih h.2]
    rfl

theorem isOk_csiSecret {secretKey nameKey idField keyField : String}
    (hsecret : secretKey ∈ out.map Prod.fst)
    (hname : nameKey ∈ out.map Prod.fst ∨ getOut out secretKey = .ok (.text "")) :
    ∃ l, csiSecret out secretKey nameKey idField keyField = .ok l := by
  rcases hname with hname | hempty
  · refine isOk_bind (getOut_of_mem hsecret) (fun secret => ?_)
    split
    · refine isOk_bind (getOut_of_mem hname) (fun name => ?_)
      split <;> exact ⟨_, rfl⟩
    · exact ⟨_, rfl⟩
  · exact ⟨[], by simp [csiSecret, hempty, Value.truthy, bind, Except.bind, pure, Except.pure]⟩

theorem isOk_secretNames {provisionerKey nodeKey : String}
    (hprovisioner : provisionerKey ∈ out.map Prod.fst) (hnode : nodeKey ∈ out.map Prod.fst) :
    ∃ fields, secretNames out provisionerKey nodeKey = .ok fields :=
  isOk_bind (getOut_of_mem hprovisioner) (fun _ => isOk_bind (getOut_of_mem hnode)
    (fun _ => ⟨_, rfl⟩))

section Complete

variable {details : Details}

theorem isOk_clusterResources : ∃ l, clusterResources details.outMap = .ok l := by
  refine isOk_bind (getOut_of_mem (by simp [Details.outMap])) (fun monData => ?_)
  refine isOk_bind (getOut_of_mem (by simp [Details.outMap])) (fun fsid => ?_)
  refine isOk_bind (getOut_of_mem (by simp [Details.outMap])) (fun username => ?_)
  exact isOk_bind (getOut_of_mem (by simp [Details.outMap])) (fun userSecret => ⟨_, rfl⟩)

theorem isOk_monitoringResources : ∃ l, monitoringResources details.outMap = .ok l := by
  refine isOk_bind (getOut_of_mem (by simp [Details.outMap])) (fun endpoint => ?_)
  split
  · refine isOk_bind (getOut_of_mem (by simp [Details.outMap])) (fun port => ?_)
    split <;> exact ⟨_, rfl⟩
  · exact ⟨_, rfl⟩

theorem isOk_dashboardResources : ∃ l, dashboardResources details.outMap = .ok l := by
  refine isOk_bind (getOut_of_mem (by simp [Details.outMap])) (fun link => ?_)
  split <;> exact ⟨_, rfl⟩

theorem isOk_rbdResources : ∃ l, rbdResources details.outMap = .ok l := by
  refine isOk_bind (getOut_of_mem (by simp [Details.outMap])) (fun radosNamespace => ?_)
  refine isOk_bind (getOut_of_mem (by simp [Details.outMap])) (fun restricted => ?_)
  refine isOk_bind (getOut_of_mem (by simp [Details.outMap])) (fun ecPoolName => ?_)
  refine isOk_bind (getOut_of_mem (by simp [Details.outMap])) (fun poolName => ?_)
  refine isOk_bind (isOk_secretNames (by simp [Details.outMap]) (by simp [Details.outMap]))
    (fun secrets => ?_)
  split
  · exact ⟨_, rfl⟩
  · split <;> exact ⟨_, rfl⟩

theorem isOk_tlsResources : ∃ l, tlsResources details.outMap = .ok l := by
  refine isOk_bind (getOut_of_mem (by simp [Details.outMap])) (fun cert => ?_)
  split <;> exact ⟨_, rfl⟩

theorem getOut_rgwEndpoint (hvalid : Valid details us) :
    getOut details.outMap "RGW_ENDPOINT" = .ok (.text details.rgw.endpoint) := by
  have hcephfs := hvalid.cephfs
  rw [CephfsOut] at hcephfs
  split at hcephfs
  · obtain ⟨node, provisioner, hout, -⟩ := hcephfs
    simp [getOut, Details.outMap, hout, cephfsOut, List.lookup_cons]
  · simp [getOut, Details.outMap, hcephfs, noCephfsOut, List.lookup_cons]

theorem isOk_rgwResources (hvalid : Valid details us) :
    ∃ l, rgwResources details.outMap = .ok l := by
  rw [rgwResources, getOut_rgwEndpoint hvalid]
  rcases hvalid.rgw with ⟨hendpoint, -⟩ | ⟨accessKey, secretKey, hkeys⟩
  · exact ⟨[], by simp [hendpoint, Value.truthy, bind, Except.bind, pure, Except.pure]⟩
  · refine isOk_bind ⟨_, rfl⟩ (fun endpoint => ?_)
    split
    · refine isOk_bind (getOut_of_mem (by simp [Details.outMap])) (fun prefixName => ?_)
      refine isOk_bind (getOut_of_mem (by simp [Details.outMap, hkeys])) (fun access => ?_)
      exact isOk_bind (getOut_of_mem (by simp [Details.outMap, hkeys])) (fun secret => ⟨_, rfl⟩)
    · exact ⟨_, rfl⟩

theorem getOut_cephfsFilesystem :
    getOut details.outMap "CEPHFS_FS_NAME" = .ok (.text details.args.cephfsFilesystemName) := by
  simp [getOut, Details.outMap, List.lookup_cons]

theorem isOk_cephfsResources (hvalid : Valid details us)
    (hnames : details.args.cephfsFilesystemName = "" ∨ details.args.cephfsDataPoolName ≠ "") :
    ∃ l, cephfsResources details.outMap = .ok l := by
  rw [cephfsResources, getOut_cephfsFilesystem]
  by_cases hname : details.args.cephfsFilesystemName = ""
  · simp [hname, Value.truthy, bind, Except.bind, pure, Except.pure]
  · have hcephfs := hvalid.cephfs
    rw [CephfsOut, if_pos ⟨hname, hnames.resolve_left hname⟩] at hcephfs
    obtain ⟨node, provisioner, hout, -⟩ := hcephfs
    refine isOk_bind ⟨_, rfl⟩ (fun fsName => ?_)
    split
    · refine isOk_bind (getOut_of_mem (by simp [Details.outMap])) (fun poolName => ?_)
      exact isOk_bind (isOk_secretNames (by simp [Details.outMap, hout, cephfsOut])
        (by simp [Details.outMap, hout, cephfsOut])) (fun secrets => ⟨_, rfl⟩)
    · exact ⟨_, rfl⟩

/-- Without a data pool no users of CephFS were created, but their names are asked for. -/
theorem cephfsResources_keyError (hvalid : Valid details us)
    (hname : details.args.cephfsFilesystemName ≠ "")
    (hpool : details.args.cephfsDataPoolName = "") :
    cephfsResources details.outMap =
      .error (.keyError "CSI_CEPHFS_PROVISIONER_SECRET_NAME") := by
  have hcephfs := hvalid.cephfs
  rw [CephfsOut, if_neg (fun hnames => hnames.2 hpool)] at hcephfs
  have hprovisioner : getOut details.outMap "CSI_CEPHFS_PROVISIONER_SECRET_NAME" =
      .error (.keyError "CSI_CEPHFS_PROVISIONER_SECRET_NAME") :=
    getOut_noCephfs hcephfs hvalid.rgw (by simp)
  have hpoolName : "CEPHFS_POOL_NAME" ∈ details.outMap.map Prod.fst := by simp [Details.outMap]
  obtain ⟨poolName, hget⟩ := getOut_of_mem hpoolName
  simp [cephfsResources, getOut_cephfsFilesystem, hget, secretNames, hprovisioner, hname,
    Value.truthy, bind, Except.bind]

theorem isOk_cephfsSecret (hvalid : Valid details us) {secretKey nameKey : String}
    (hmem : (secretKey, nameKey) ∈
      [("CSI_CEPHFS_PROVISIONER_SECRET", "CSI_CEPHFS_PROVISIONER_SECRET_NAME"),
        ("CSI_CEPHFS_NODE_SECRET", "CSI_CEPHFS_NODE_SECRET_NAME")]) :
    ∃ l, csiSecret details.outMap secretKey nameKey "adminID" "adminKey" = .ok l := by
  have hcephfs := hvalid.cephfs
  rw [CephfsOut] at hcephfs
  simp only [List.mem_cons, Prod.mk.injEq, List.not_mem_nil, or_false] at hmem
  split at hcephfs
  · obtain ⟨node, provisioner, hout, -⟩ := hcephfs
    apply isOk_csiSecret <;> rcases hmem with ⟨rfl, rfl⟩ | ⟨rfl, rfl⟩ <;>
      simp [Details.outMap, hout, cephfsOut]
  · apply isOk_csiSecret <;> rcases hmem with ⟨rfl, rfl⟩ | ⟨rfl, rfl⟩ <;>
      simp [getOut, Details.outMap, hcephfs, noCephfsOut, List.lookup_cons]

def earlyParts (out : OutMap) : List (Except Stop (List Resource)) := (jsonParts out).take 8

theorem jsonParts_eq (out : OutMap) : jsonParts out =
    earlyParts out ++ cephfsResources out :: [rgwResources out, tlsResources out] := rfl

theorem isOk_earlyParts (hvalid : Valid details us) :
    ∀ part ∈ earlyParts details.outMap, ∃ l, part = .ok l := by
  simp only [earlyParts, jsonParts, List.take_succ_cons, List.take_zero, List.forall_mem_cons]
  exact ⟨isOk_clusterResources, isOk_monitoringResources,
    isOk_csiSecret (by simp [Details.outMap]) (Or.inl (by simp [Details.outMap])),
    isOk_csiSecret (by simp [Details.outMap]) (Or.inl (by simp [Details.outMap])),
    isOk_cephfsSecret hvalid (by simp), isOk_cephfsSecret hvalid (by simp),
    isOk_dashboardResources, isOk_rbdResources, by simp⟩

theorem jsonResources_isOk (hvalid : Valid details us)
    (hnames : details.args.cephfsFilesystemName = "" ∨ details.args.cephfsDataPoolName ≠ "") :
    ∃ resources, jsonResources details.outMap = .ok resources := by
  apply concatParts_isOk
  rw [jsonParts_eq]
  simp only [List.forall_mem_append, List.forall_mem_cons]
  exact ⟨isOk_earlyParts hvalid, isOk_cephfsResources hvalid hnames, isOk_rgwResources hvalid,
    isOk_tlsResources, by simp⟩

theorem jsonResources_keyError (hvalid : Valid details us)
    (hname : details.args.cephfsFilesystemName ≠ "")
    (hpool : details.args.cephfsDataPoolName = "") :
    jsonResources details.outMap =
      .error (.keyError "CSI_CEPHFS_PROVISIONER_SECRET_NAME") := by
  rw [jsonResources, jsonParts_eq, cephfsResources_keyError hvalid hname hpool]
  exact concatParts_of_error (isOk_earlyParts hvalid)

end Complete

end Served

section Export

variable {σ : Type} {party : Party Op Reply σ} {users : σ → Users} (py : Python)

theorem leads_genJsonOut (laws : AuthLaws party users) {args : Args} (hdry : args.dryRun = false)
    (us : Users) :
    Leads party users (genJsonOut py args) us
      (fun text us' => ∃ resources details, text = py.dumps resources ++ "\n" ∧
        jsonResources details.outMap = .ok resources ∧ Valid details us' ∧
        details.args.runAsUser = args.runAsUser) (fun _ => True) := by
  apply ((leads_genOutputMap laws hdry py us).mono (fun _ _ h => h) (fun _ _ => trivial)).bind
  rintro _ us' ⟨details, rfl, ⟨fs, metadataPool, dataPool, hfilled⟩, -, hvalid⟩
  rw [if_neg (by simp [hdry])]
  refine leads_ofExcept_bind (fun resources hjson => ?_) trivial
  exact leads_pure ⟨resources, details, rfl, hjson, hvalid, by rw [hfilled]; rfl⟩

theorem hasKeys_update {us : Users} {e : String} {user : User} (h : HasKeys us)
    (huser : user.key ≠ "") : HasKeys (Function.update us e (some user)) := by
  intro e' found hfound
  by_cases he : e' = e
  · rw [he, Function.update_self, Option.some_inj] at hfound
    exact hfound ▸ huser
  · rw [Function.update_of_ne he] at hfound
    exact h e' found hfound

theorem hasKeys_plainParty (op : Op) (s : PlainCluster) (h : HasKeys s.users) :
    HasKeys (plainParty op s).2.users := by
  have hsame := plainParty_reliable.same_users op s
  cases op with
  | authGetOrCreate e caps =>
    cases hl : s.auth.lookup e with
    | some entry =>
      simp only [plainParty, hl]
      split <;> exact h
    | none =>
      simp only [plainParty, hl]
      rw [users_insert]
      exact hasKeys_update h (by simp [AuthEntry.user])
  | authCaps e caps =>
    cases hl : s.auth.lookup e with
    | none =>
      simp only [plainParty, hl]
      exact h
    | some entry =>
      simp only [plainParty, hl]
      rw [users_insert]
      exact hasKeys_update h (h e entry.user (by rw [PlainCluster.users, hl]; rfl))
  | _ => exact (hsame rfl).symm ▸ h

theorem hasKeys_olderCluster : HasKeys olderCluster.users := by
  have hempty : HasKeys (PlainCluster.users ⟨∅⟩) := by
    intro e user he
    simp [PlainCluster.users] at he
  have hinsert := users_insert ∅ "client.csi-rbd-node"
    ⟨"AQBOgrNeHbK1AxAAubYBeV8S1U", toDict ["mon", "profile rbd", "osd", "profile rbd"]⟩
  rw [olderCluster, ← AList.insert_empty, hinsert]
  exact hasKeys_update hempty (by simp [AuthEntry.user])

/-- No file system was found, or one with a data pool. -/
def CephfsComplete (out : OutMap) : Prop :=
  getOut out "CEPHFS_FS_NAME" = .ok (.text "") ∨ getOut out "CEPHFS_POOL_NAME" ≠ .ok (.text "")

/-- Once its output map is complete, an export prints JSON, unless the file system has no
data pool: then it stops on a key that it never set. -/
theorem json_or_keyError (laws : AuthLaws party users) (args : Args)
    (hdry : args.dryRun = false) (s : σ) :
    Ends party (genOutputMap py args) s
      (fun out s' =>
        (CephfsComplete out → ∃ resources, jsonResources out = .ok resources ∧
          (genJsonOut py args).run party s = (.ok (py.dumps resources ++ "\n"), s')) ∧
        (¬ CephfsComplete out → (genJsonOut py args).run party s =
          (.error (.keyError "CSI_CEPHFS_PROVISIONER_SECRET_NAME"), s')))
      (fun _ _ => True) := by
  refine ((leads_genOutputMap laws hdry py (users s) s rfl).and ends_self).mono ?_
    (fun _ _ _ => trivial)
  rintro out s' ⟨⟨details, rfl, -, -, hvalid⟩, hrun⟩
  have hcomplete : CephfsComplete details.outMap ↔
      (details.args.cephfsFilesystemName = "" ∨ details.args.cephfsDataPoolName ≠ "") := by
    simp [CephfsComplete, getOut, Details.outMap, List.lookup_cons]
  rw [genJsonOut, run_bind, hrun]
  simp only [hdry, Bool.false_eq_true, if_false, hcomplete]
  refine ⟨fun hnames => ?_, fun hnames => ?_⟩
  · obtain ⟨resources, hjson⟩ := jsonResources_isOk hvalid hnames
    exact ⟨resources, hjson, by rw [hjson]; rfl⟩
  · rw [not_or, not_not] at hnames
    rw [jsonResources_keyError hvalid hnames.1 hnames.2]
    rfl

theorem json_or_keyError_older :
    Ends plainParty (genOutputMap asciiPython (exportArgs replicapoolArgs)) olderCluster
      (fun out s' =>
        (CephfsComplete out → ∃ resources, jsonResources out = .ok resources ∧
          (genJsonOut asciiPython (exportArgs replicapoolArgs)).run plainParty olderCluster =
            (.ok (asciiPython.dumps resources ++ "\n"), s')) ∧
        (¬ CephfsComplete out →
          (genJsonOut asciiPython (exportArgs replicapoolArgs)).run plainParty olderCluster =
            (.error (.keyError "CSI_CEPHFS_PROVISIONER_SECRET_NAME"), s')))
      (fun _ _ => True) :=
  json_or_keyError asciiPython plainParty_reliable.toAuthLaws (exportArgs replicapoolArgs) rfl
    olderCluster

example : ((genJsonOut asciiPython (exportArgs replicapoolArgs)).run plainParty
    olderCluster).1.isOk = true := by decide +kernel

end Export

end MigrateImageRepository.ExternalCluster.Resources
