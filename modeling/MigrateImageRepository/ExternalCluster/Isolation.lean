import MigrateImageRepository.ExternalCluster.Runs

/-! What the name of a restricted user tells.
A restricted user is found by its name alone, and the name joins the cluster, the pool and
the namespace with dashes. Where clusters and pools have no dash in their names, the name
tells what the user may do, and only exports with the same restriction share a user. -/

namespace MigrateImageRepository.ExternalCluster.Isolation
open Dialogue Dialogue.Prog Cluster Created Export ItemText Repeated Requests Runs Upgrade Users

def cephfsParts (args : Args) : List String :=
  if args.restrictedAuthPermission.truthy then
    if args.cephfsFilesystemName = "" then [args.k8sClusterName]
    else [args.k8sClusterName, args.cephfsFilesystemName]
  else []

def cephfsScope : List String → String
  | [_, fs] => fs
  | _ => "*"

def rbdParts (args : Args) : List String :=
  if args.restrictedAuthPermission.truthy then
    if args.radosNamespace = "" then [args.k8sClusterName, args.rbdDataPoolName]
    else [args.k8sClusterName, args.rbdDataPoolName, args.radosNamespace]
  else []

@[irreducible] def rbdScope : List String → String
  | [_, pool] => "profile rbd pool=" ++ pool
  | [_, pool, ns] => "profile rbd pool=" ++ pool ++ " namespace=" ++ ns
  | _ => "profile rbd"

def fullName (entity : String) (parts : List String) : List Char :=
  entity.toList ++ prefixed '-' (parts.map String.toList)

theorem cephfs_parts {args : Args} {entity e : String} {caps : String → Caps} {newCap : Caps}
    (h : cephfsCapsAndEntity args entity caps = .ok (newCap, e)) :
    newCap = caps (cephfsScope (cephfsParts args)) ∧
      e.toList = fullName entity (cephfsParts args) := by
  have hdash : "-".toList = ['-'] := by decide +kernel
  rw [cephfsCapsAndEntity] at h
  rw [cephfsParts]
  split_ifs at h ⊢ <;> cases h <;> simp [cephfsScope, fullName, prefixed, hdash]

theorem getEntity_parts {entity pool cluster ns e : String}
    (h : getEntity entity pool "" cluster ns = .ok e) :
    e.toList = fullName entity (if ns = "" then [cluster, pool] else [cluster, pool, ns]) := by
  have hdash : "-".toList = ['-'] := by decide +kernel
  rw [getEntity] at h
  by_cases hpool : hasDotOrUnderscore pool
  · rw [if_pos (Or.inl hpool), if_pos rfl] at h
    cases h
  · rw [if_neg (by simp [hpool])] at h
    obtain ⟨_, ⟨rfl⟩, hend⟩ := bind_eq_ok.mp h
    beta_reduce at hend
    by_cases hns : ns = ""
    · rw [if_neg (not_not_intro hns), Except.ok.injEq] at hend
      simp [← hend, hns, fullName, prefixed, hdash]
    · rw [if_pos hns, Except.ok.injEq] at hend
      simp [← hend, hns, fullName, prefixed, hdash]

theorem rbd_parts {args : Args} {entity e : String} {caps : String → Caps} {newCap : Caps}
    (halias : args.restrictedAuthPermission.truthy = true → args.aliasRbdDataPoolName = "")
    (h : rbdCapsAndEntity args entity caps = .ok (newCap, e)) :
    newCap = caps (rbdScope (rbdParts args)) ∧
      e.toList = fullName entity (rbdParts args) := by
  rw [rbdCapsAndEntity] at h
  rw [rbdParts]
  unfold rbdScope
  by_cases hrestricted : args.restrictedAuthPermission.truthy = true
  · rw [if_pos hrestricted, halias hrestricted] at h
    rw [if_pos hrestricted]
    split at h
    · cases h
    · split at h
      · cases h
      · obtain ⟨found, hfound, h⟩ := bind_eq_ok.mp h
        have hname := getEntity_parts hfound
        by_cases hns : args.radosNamespace = ""
        · rw [if_pos hns] at hname ⊢
          rw [if_neg (not_not_intro hns)] at h
          cases h
          exact ⟨rfl, hname⟩
        · rw [if_neg hns] at hname ⊢
          rw [if_pos hns] at h
          cases h
          exact ⟨rfl, hname⟩
  · rw [if_neg hrestricted] at h ⊢
    cases h
    simp [fullName, prefixed]

/-- The names of clusters and pools in restricted users have no dash, and the health checker
is not called like a user of a storage driver. -/
structure Apart (args : Args) : Prop where
  noAlias : args.restrictedAuthPermission.truthy = true → args.aliasRbdDataPoolName = ""
  cluster : args.restrictedAuthPermission.truthy = true → '-' ∉ args.k8sClusterName.toList
  pool : args.restrictedAuthPermission.truthy = true → '-' ∉ args.rbdDataPoolName.toList
  checker : ∀ kind ∈ kinds, kind.base ≠ "client.healthchecker" →
    ¬ kind.base.toList <+: args.runAsUser.toList

theorem toList_map_inj {parts parts' : List String}
    (h : parts.map String.toList = parts'.map String.toList) : parts = parts' :=
  List.map_injective_iff.mpr (fun _ _ => String.toList_inj.mp) h

theorem parts_of_fullName {entity : String} {k : ℕ} {parts parts' : List String}
    (hlen : parts.length ≤ k + 1) (hlen' : parts'.length ≤ k + 1)
    (h : ∀ part ∈ parts.take k, '-' ∉ part.toList)
    (h' : ∀ part ∈ parts'.take k, '-' ∉ part.toList)
    (heq : fullName entity parts = fullName entity parts') : parts = parts' := by
  apply toList_map_inj
  refine prefixed_inj k (by simpa using hlen) (by simpa using hlen') ?_ ?_
    (List.append_cancel_left heq)
  · rw [← List.map_take]
    exact List.forall_mem_map.mpr h
  · rw [← List.map_take]
    exact List.forall_mem_map.mpr h'

theorem cephfsParts_apart {args : Args} (h : Apart args) :
    (cephfsParts args).length ≤ 2 ∧ ∀ part ∈ (cephfsParts args).take 1, '-' ∉ part.toList := by
  rw [cephfsParts]
  split_ifs with hrestricted <;> simp [h.cluster, *]

theorem rbdParts_apart {args : Args} (h : Apart args) :
    (rbdParts args).length ≤ 3 ∧ ∀ part ∈ (rbdParts args).take 2, '-' ∉ part.toList := by
  rw [rbdParts]
  split_ifs with hrestricted <;> simp [h.cluster, h.pool, *]

theorem base_unique : ∀ kind ∈ kinds, ∀ kind' ∈ kinds, kind.base ≠ "client.healthchecker" →
    kind'.base ≠ "client.healthchecker" → kind.base.toList <+: kind'.base.toList →
    kind.base = kind'.base := by
  decide +kernel

theorem kind_of_name {kind kind' : Kind} (hkind : kind ∈ kinds) (hkind' : kind' ∈ kinds)
    (hcsi : kind.base ≠ "client.healthchecker") (hcsi' : kind'.base ≠ "client.healthchecker")
    {args args' : Args} {newCap newCap' : Caps} {e : String}
    (h : kind.capsAndEntity args = .ok (newCap, e))
    (h' : kind'.capsAndEntity args' = .ok (newCap', e)) : kind = kind' := by
  apply List.inj_on_of_nodup_map nodup_bases hkind hkind'
  rcases List.prefix_or_prefix_of_prefix (prefix_of_csi hkind hcsi h)
    (prefix_of_csi hkind' hcsi' h') with hstart | hstart
  · exact base_unique kind hkind kind' hkind' hcsi hcsi' hstart
  · exact (base_unique kind' hkind' kind hkind hcsi' hcsi hstart).symm

theorem cephfsParts_unique {args args' : Args} (ha : Apart args) (ha' : Apart args')
    {entity e : String} {caps : String → Caps} {newCap newCap' : Caps}
    (h : cephfsCapsAndEntity args entity caps = .ok (newCap, e))
    (h' : cephfsCapsAndEntity args' entity caps = .ok (newCap', e)) :
    cephfsParts args = cephfsParts args' ∧ newCap = newCap' := by
  obtain ⟨rfl, hname⟩ := cephfs_parts h
  obtain ⟨rfl, hname'⟩ := cephfs_parts h'
  obtain ⟨hlen, hdash⟩ := cephfsParts_apart ha
  obtain ⟨hlen', hdash'⟩ := cephfsParts_apart ha'
  have hparts := parts_of_fullName hlen hlen' hdash hdash' (hname.symm.trans hname')
  exact ⟨hparts, by rw [hparts]⟩

theorem rbdParts_unique {args args' : Args} (ha : Apart args) (ha' : Apart args')
    {entity e : String} {caps : String → Caps} {newCap newCap' : Caps}
    (h : rbdCapsAndEntity args entity caps = .ok (newCap, e))
    (h' : rbdCapsAndEntity args' entity caps = .ok (newCap', e)) :
    rbdParts args = rbdParts args' ∧ newCap = newCap' := by
  obtain ⟨rfl, hname⟩ := rbd_parts ha.noAlias h
  obtain ⟨rfl, hname'⟩ := rbd_parts ha'.noAlias h'
  obtain ⟨hlen, hdash⟩ := rbdParts_apart ha
  obtain ⟨hlen', hdash'⟩ := rbdParts_apart ha'
  have hparts := parts_of_fullName hlen hlen' hdash hdash' (hname.symm.trans hname')
  exact ⟨hparts, by rw [hparts]⟩

def driverParts (user : String) (args : Args) : List String :=
  if user ∈ ["client.csi-cephfs-node", "client.csi-cephfs-provisioner"] then cephfsParts args
  else rbdParts args

theorem told_by_name {kind kind' : Kind} (hkind : kind ∈ kinds) (hkind' : kind' ∈ kinds)
    (hcsi : kind.base ≠ "client.healthchecker") (hcsi' : kind'.base ≠ "client.healthchecker")
    {args args' : Args} (ha : Apart args) (ha' : Apart args') {newCap newCap' : Caps}
    {e : String} (h : kind.capsAndEntity args = .ok (newCap, e))
    (h' : kind'.capsAndEntity args' = .ok (newCap', e)) :
    kind = kind' ∧ driverParts kind.base args = driverParts kind.base args' ∧
      newCap = newCap' := by
  obtain rfl := kind_of_name hkind hkind' hcsi hcsi' h h'
  refine ⟨rfl, ?_⟩
  simp only [kinds, List.mem_cons, List.not_mem_nil, or_false] at hkind
  rcases hkind with rfl | rfl | rfl | rfl | rfl
  · simp only [getCephfsProvisionerCapsAndEntity] at h h'
    exact cephfsParts_unique ha ha' h h'
  · simp only [getCephfsNodeCapsAndEntity] at h h'
    exact cephfsParts_unique ha ha' h h'
  · simp only [getRbdProvisionerCapsAndEntity] at h h'
    exact rbdParts_unique ha ha' h h'
  · simp only [getRbdNodeCapsAndEntity] at h h'
    exact rbdParts_unique ha ha' h h'
  · exact absurd rfl hcsi

/-- Every driver's user has the capabilities that its name tells. -/
def Exact (us : Users) : Prop :=
  ∀ kind ∈ kinds, kind.base ≠ "client.healthchecker" → ∀ args newCap e user, Apart args →
    kind.capsAndEntity args = .ok (newCap, e) → us e = some user →
      user.caps = capMap (flatten newCap)

theorem Apart.filled {args args' : Args} (h : Apart args) (hfilled : Filled args args') :
    Apart args' := by
  obtain ⟨fs, metadataPool, dataPool, rfl⟩ := hfilled
  exact ⟨h.noAlias, h.cluster, h.pool, h.checker⟩

theorem Exact.grown {args : Args} (ha : Apart args) {us us' : Users} (h : Exact us)
    (hgrown : Grown args us us') : Exact us' := by
  intro kind hkind hcsi args' newCap e user ha' hcaps huser
  rcases hgrown e with hsame | ⟨-, key, caps, ⟨base, hbase, newCap', hrequested, rfl⟩, hcreated⟩
  · exact h kind hkind hcsi args' newCap e user ha' hcaps (hsame ▸ huser)
  · obtain ⟨kind', hkind', rfl⟩ := exists_kind hbase
    by_cases hcsi' : kind'.base = "client.healthchecker"
    · rw [hcsi'] at hrequested
      have hstart := prefix_of_csi hkind hcsi hcaps
      rw [entity_checker hrequested] at hstart
      exact absurd hstart (ha.checker kind hkind hcsi)
    · obtain ⟨-, hcaps'⟩ := of_getCapsAndEntity_kind hkind' hrequested
      rw [huser, Option.some_inj] at hcreated
      obtain ⟨-, -, rfl⟩ := told_by_name hkind hkind' hcsi hcsi' ha' ha hcaps hcaps'
      rw [hcreated]

/-- An export that asks for the user `e` asks for it for the same driver, and with the same
restriction to a cluster and its parts or, like this one, with none. -/
def Unshared (args : Args) (user e : String) : Prop :=
  ∀ kind ∈ kinds, kind.base ≠ "client.healthchecker" → ∀ other newCap, Apart other →
    kind.capsAndEntity other = .ok (newCap, e) →
      kind.base = user ∧ driverParts user other = driverParts user args

/-- The key of a driver's user that has the capabilities of its kind and no others, and that
no export for anything else asks for. -/
structure Own (args : Args) (user : String) (us : Users) (secret : Option String × String) :
    Prop where
  caps : ∃ newCap found, getCapsAndEntity args user = .ok (args, newCap, "client." ++ secret.2) ∧
    us ("client." ++ secret.2) = some found ∧ secret.1 = some found.key ∧
    found.caps = capMap (flatten newCap)
  unshared : Unshared args user ("client." ++ secret.2)

structure Isolated (details : Details) (us : Users) : Prop where
  rbdNode : Own details.args "client.csi-rbd-node" us details.rbdNode
  rbdProvisioner : Own details.args "client.csi-rbd-provisioner" us details.rbdProvisioner
  cephfs : details.args.cephfsFilesystemName ≠ "" ∧ details.args.cephfsDataPoolName ≠ "" →
    ∃ node provisioner, details.cephfs = cephfsOut node provisioner ∧
      Own details.args "client.csi-cephfs-node" us node ∧
      Own details.args "client.csi-cephfs-provisioner" us provisioner

theorem own_of_handed {args : Args} (ha : Apart args) {user : String} (huser : user ∈ baseUsers)
    (hcsi : user ≠ "client.healthchecker") {us : Users} (h : Exact us)
    {secret : Option String × String} (hhanded : HandedCsi args user us secret) :
    Own args user us secret := by
  obtain ⟨⟨newCap, hcaps⟩, found, hfound, hkey⟩ := hhanded
  obtain ⟨kind, hkind, rfl⟩ := exists_kind huser
  obtain ⟨-, hkindcaps⟩ := of_getCapsAndEntity_kind hkind hcaps
  have hexact := h kind hkind hcsi args newCap _ found ha hkindcaps hfound
  refine ⟨⟨newCap, found, hcaps, hfound, hkey, hexact⟩, ?_⟩
  intro kind' hkind' hcsi' other newCap' ha' hother
  obtain ⟨rfl, hparts, -⟩ := told_by_name hkind hkind' hcsi hcsi' ha ha' hkindcaps hother
  exact ⟨rfl, hparts.symm⟩

theorem Valid.isolated {details : Details} (ha : Apart details.args) {us : Users}
    (h : Exact us) (hvalid : Valid details us) : Isolated details us where
  rbdNode := own_of_handed ha (by decide) (by decide) h hvalid.rbdNode
  rbdProvisioner := own_of_handed ha (by decide) (by decide) h hvalid.rbdProvisioner
  cephfs hnames := by
    have hcephfs := hvalid.cephfs
    rw [CephfsOut, if_pos hnames] at hcephfs
    obtain ⟨node, provisioner, hout, hnode, hprovisioner⟩ := hcephfs
    exact ⟨node, provisioner, hout, own_of_handed ha (by decide) (by decide) h hnode,
      own_of_handed ha (by decide) (by decide) h hprovisioner⟩

section Script

variable {σ : Type} {party : Party Op Reply σ} {users : σ → Users} (py : Python)

theorem exact_afterScripts (laws : AuthLaws party users) {runs : List Args}
    (hruns : ∀ args ∈ runs, args.upgrade = false ∧ Apart (lowerClusterName py (exportArgs args)))
    {s : σ} (h : Exact (users s)) : Exact (users (afterScripts py party runs s)) := by
  induction runs generalizing s with
  | nil => exact h
  | cons args runs ih =>
    rw [List.forall_mem_cons] at hruns
    obtain ⟨⟨hexport, ha⟩, hrest⟩ := hruns
    have hgrown : ∀ us', GrownBy py (exportArgs args) (users s) us' → Exact us' := by
      rintro us' ⟨args', hfilled, hgrown⟩
      exact h.grown (ha.filled hfilled) hgrown
    have hfirst := ((leads_export py laws hexport (users s)).mono (fun _ us' => hgrown us') hgrown
      s rfl).state (I := fun s' => Exact (users s'))
    exact ih hrest hfirst

end Script

def restrictedArgs (cluster pool : String) : Args :=
  { replicapoolArgs with
    restrictedAuthPermission := .text "true"
    k8sClusterName := cluster
    rbdDataPoolName := pool }

-- with a dash in a name, two pools of two clusters come to share one user
example : ((getRbdNodeCapsAndEntity (restrictedArgs "a-b" "c")).toOption.map Prod.snd) =
    ((getRbdNodeCapsAndEntity (restrictedArgs "a" "b-c")).toOption.map Prod.snd) ∧
    ((getRbdNodeCapsAndEntity (restrictedArgs "a-b" "c")).toOption.map Prod.fst) ≠
      ((getRbdNodeCapsAndEntity (restrictedArgs "a" "b-c")).toOption.map Prod.fst) := by
  decide +kernel

end MigrateImageRepository.ExternalCluster.Isolation
