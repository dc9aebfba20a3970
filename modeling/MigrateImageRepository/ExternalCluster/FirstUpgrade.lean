import MigrateImageRepository.ExternalCluster.Runs

/-! The first upgrade after an export.
The capabilities that an export gives to new users are written the way an upgrade writes
them, and the pool prefix is found again in those of the health checker. So an upgrade by
the same version has nothing to do. -/

namespace MigrateImageRepository.ExternalCluster.FirstUpgrade
open Dialogue Dialogue.Prog Cluster Created Export FirstCome ItemText Permissions PoolPrefix
open Repeated Requests Runs Upgrade Users

theorem getCap_capMap (newCap : Caps) (service : String) :
    getCap (capMap (flatten newCap)) service = getCap (newCap.lookup ·) service := by
  simp [getCap, capMap]

/-- A capability that an upgrade would write as it is. -/
def WrittenCap (cap : String × String) : Prop :=
  cap.1 ∈ capKeys ∧ cap.2 ≠ "" ∧ Written cap.2

instance (cap : String × String) : Decidable (WrittenCap cap) :=
  inferInstanceAs (Decidable (_ ∧ _ ∧ permText (perms cap.2).toList = cap.2))

theorem settled_of_written {newCap : Caps} (h : ∀ cap ∈ newCap, WrittenCap cap) (key : String) :
    Settled newCap ⟨key, capMap (flatten newCap)⟩ := by
  refine User.ext (upgradedUser_key _ _) (funext fun service => ?_)
  rw [upgradedUser_caps, mergedCap]
  dsimp only
  rw [getCap_capMap, capMap, pairs_flatten]
  cases hlookup : newCap.lookup service with
  | none => simp [getCap, hlookup, mergeCaps_empty_empty]
  | some text =>
    have hmem : (service, text) ∈ newCap := by
      obtain ⟨front, back, hsplit, -⟩ := List.lookup_eq_some_iff.mp hlookup
      rw [hsplit]
      exact List.mem_append_right front List.mem_cons_self
    obtain ⟨hservice, hne, hwritten⟩ := h _ hmem
    have hmerge : mergeCaps text text = text := mergeCaps_of_subset hwritten (fun _ hp => hp)
    simp [getCap, hlookup, hmerge, hservice, hne]

theorem cephfs_unrestricted {args : Args} (h : args.restrictedAuthPermission.truthy = false)
    (entity : String) (caps : String → Caps) :
    cephfsCapsAndEntity args entity caps = .ok (caps "*", entity) := by
  rw [cephfsCapsAndEntity, if_neg (by simp [h])]

theorem rbd_unrestricted {args : Args} (h : args.restrictedAuthPermission.truthy = false)
    (entity : String) (caps : String → Caps) :
    rbdCapsAndEntity args entity caps = .ok (caps "profile rbd", entity) := by
  rw [rbdCapsAndEntity, if_neg (by simp [h])]

theorem capsAndEntity_unrestricted {kind : Kind} (hkind : kind ∈ kinds)
    (hcsi : kind.base ≠ "client.healthchecker") {args : Args}
    (h : args.restrictedAuthPermission.truthy = false) :
    kind.capsAndEntity args = kind.capsAndEntity {} := by
  have hdefault : (({} : Args).restrictedAuthPermission).truthy = false := rfl
  simp only [kinds, List.mem_cons, List.not_mem_nil, or_false] at hkind
  rcases hkind with rfl | rfl | rfl | rfl | rfl
  · simp only [getCephfsProvisionerCapsAndEntity, cephfs_unrestricted h,
      cephfs_unrestricted hdefault]
  · simp only [getCephfsNodeCapsAndEntity, cephfs_unrestricted h, cephfs_unrestricted hdefault]
  · simp only [getRbdProvisionerCapsAndEntity, rbd_unrestricted h, rbd_unrestricted hdefault]
  · simp only [getRbdNodeCapsAndEntity, rbd_unrestricted h, rbd_unrestricted hdefault]
  · exact absurd rfl hcsi

theorem csi_written : ∀ kind ∈ kinds, kind.base ≠ "client.healthchecker" →
    ∃ result ∈ (kind.capsAndEntity {}).toOption,
      result.2 = kind.base ∧ ∀ cap ∈ result.1, WrittenCap cap := by
  decide +kernel

def osdPerms (rgwPool : String) : List (List Char) :=
  ["profile rbd-read-only".toList,
    "allow rwx pool=".toList ++ rgwPool.toList ++ ".rgw.meta".toList,
    "allow r pool=.rgw.root".toList,
    "allow rw pool=".toList ++ rgwPool.toList ++ ".rgw.control".toList,
    "allow rx pool=".toList ++ rgwPool.toList ++ ".rgw.log".toList,
    "allow x pool=".toList ++ rgwPool.toList ++ ".rgw.buckets.index".toList]

theorem osdCaps_eq (rgwPool : String) : osdCaps rgwPool = permText (osdPerms rgwPool) := by
  have hfirst : "profile rbd-read-only, allow rwx pool=".toList =
      "profile rbd-read-only".toList ++ ([',', ' '] ++ "allow rwx pool=".toList) := by
    decide +kernel
  have hroot : ".rgw.meta, allow r pool=.rgw.root, allow rw pool=".toList =
      ".rgw.meta".toList ++ ([',', ' '] ++ ("allow r pool=.rgw.root".toList ++
        ([',', ' '] ++ "allow rw pool=".toList))) := by decide +kernel
  have hlog : ".rgw.control, allow rx pool=".toList =
      ".rgw.control".toList ++ ([',', ' '] ++ "allow rx pool=".toList) := by decide +kernel
  have hindex : ".rgw.log, allow x pool=".toList =
      ".rgw.log".toList ++ ([',', ' '] ++ "allow x pool=".toList) := by decide +kernel
  apply String.toList_inj.mp
  rw [permText, String.toList_ofList, osdPerms, joined]
  simp only [List.intercalate_cons_cons, List.intercalate_singleton]
  unfold osdCaps
  simp only [String.toList_append, hfirst, hroot, hlog, hindex, List.append_assoc]

theorem isItem_between {front back : List Char} (mid : List Char) (hne : front ≠ [])
    (hne' : back ≠ []) (hsep : ∀ ch ∈ front ++ back, isComma ch = false)
    (hmid : ∀ ch ∈ mid, isComma ch = false) (hhead : ∀ ch ∈ front.head?, isSpace ch = false)
    (hlast : ∀ ch ∈ back.getLast?, isSpace ch = false) :
    IsItem isSpace isComma (front ++ mid ++ back) := by
  apply isItem_of_ends
  · simp [hne]
  · intro ch hch
    rw [List.append_assoc, List.mem_append, List.mem_append] at hch
    rcases hch with hch | hch | hch
    · exact hsep ch (List.mem_append_left back hch)
    · exact hmid ch hch
    · exact hsep ch (List.mem_append_right front hch)
  · simpa [List.head?_append, hne] using hhead
  · simpa [List.getLast?_append, hne'] using hlast

theorem isItem_osdPerms {rgwPool : String} (hcomma : ',' ∉ rgwPool.toList) :
    ∀ p ∈ osdPerms rgwPool, IsItem isSpace isComma p := by
  have hmid : ∀ ch ∈ rgwPool.toList, isComma ch = false := by
    intro ch hch
    rw [isComma, beq_eq_false_iff_ne]
    rintro rfl
    exact hcomma hch
  have hcsi : IsItem isSpace isComma "profile rbd-read-only".toList := by
    apply isItem_of_ends <;> simp [isComma, isSpace]
  have hroot : IsItem isSpace isComma "allow r pool=.rgw.root".toList := by
    apply isItem_of_ends <;> simp [isComma, isSpace]
  simp only [osdPerms, List.forall_mem_cons]
  refine ⟨hcsi, ?_, hroot, ?_, ?_, ?_, by simp⟩
  all_goals
    apply isItem_between _ _ _ _ hmid <;> simp [isComma, isSpace]

theorem nodup_osdPerms (rgwPool : String) : (osdPerms rgwPool).Nodup := by
  apply List.Nodup.of_map (List.take 9)
  have hlit : ["profile rbd-read-only".toList.take 9, "allow rwx pool=".toList.take 9,
      "allow r pool=.rgw.root".toList.take 9, "allow rw pool=".toList.take 9,
      "allow rx pool=".toList.take 9, "allow x pool=".toList.take 9].Nodup := by decide +kernel
  have htake : ∀ front : String, 9 ≤ front.toList.length → ∀ back,
      (front.toList ++ back).take 9 = front.toList.take 9 :=
    fun front h back => List.take_append_of_le_length h
  rw [osdPerms]
  simp only [List.map_cons, List.map_nil, List.append_assoc]
  rw [htake "allow rwx pool=" (by decide +kernel), htake "allow rw pool=" (by decide +kernel),
    htake "allow rx pool=" (by decide +kernel), htake "allow x pool=" (by decide +kernel)]
  exact hlit

theorem written_osdCaps {rgwPool : String} (hcomma : ',' ∉ rgwPool.toList) :
    Written (osdCaps rgwPool) := by
  rw [Written, osdCaps_eq, perms, permList_permText (isItem_osdPerms hcomma)]
  have hnodup : addAll [] (osdPerms rgwPool) = osdPerms rgwPool :=
    addAll_of_nodup (nodup_osdPerms rgwPool)
  exact congrArg permText hnodup

theorem checker_written {rgwPool : String} (hcomma : ',' ∉ rgwPool.toList) :
    ∀ cap ∈ checkerCaps rgwPool, WrittenCap cap := by
  simp only [checkerCaps, List.forall_mem_cons]
  refine ⟨by decide +kernel, by decide +kernel,
    ⟨by simp [capKeys], ?_, written_osdCaps hcomma⟩, by simp⟩
  intro hempty
  have htext := toList_osdCaps rgwPool
  rw [show osdCaps rgwPool = "" from hempty] at htext
  have hhead : osdHead.toList ≠ [] := by decide +kernel
  exact hhead (List.append_eq_nil_iff.mp htext.symm).1

def plainCaps (kind : Kind) (rgwPool : String) : Caps :=
  if kind.base = "client.healthchecker" then checkerCaps rgwPool
  else ((kind.capsAndEntity {}).toOption.map Prod.fst).getD []

def plainName (kind : Kind) (args : Args) : String :=
  if kind.base = "client.healthchecker" then args.runAsUser else kind.base

theorem capsAndEntity_plain {kind : Kind} (hkind : kind ∈ kinds) {args : Args}
    (h : args.restrictedAuthPermission.truthy = false) :
    kind.capsAndEntity args = .ok (plainCaps kind args.rgwPoolPrefix, plainName kind args) := by
  by_cases hcsi : kind.base = "client.healthchecker"
  · have hchecker : kind = ⟨"client.healthchecker", getDefaultUserCapsAndEntity⟩ :=
      List.inj_on_of_nodup_map nodup_bases hkind (by simp [kinds]) hcsi
    rw [plainCaps, plainName, if_pos hcsi, if_pos hcsi, hchecker]
    exact getDefaultUserCapsAndEntity_eq args
  · obtain ⟨result, hresult, hname, -⟩ := csi_written kind hkind hcsi
    rw [capsAndEntity_unrestricted hkind hcsi h, plainCaps, plainName, if_neg hcsi, if_neg hcsi,
      ← hname]
    cases hdefault : kind.capsAndEntity {} with
    | error msg => rw [hdefault] at hresult; cases hresult
    | ok default =>
      rw [hdefault] at hresult
      cases hresult
      rfl

theorem plain_written {kind : Kind} (hkind : kind ∈ kinds) {rgwPool : String}
    (hcomma : ',' ∉ rgwPool.toList) : ∀ cap ∈ plainCaps kind rgwPool, WrittenCap cap := by
  rw [plainCaps]
  split
  · exact checker_written hcomma
  · rename_i hcsi
    obtain ⟨result, hresult, -, hwritten⟩ := csi_written kind hkind hcsi
    rw [hresult]
    exact hwritten

/-- Every user that a cluster needs is there as an export with these arguments creates it. -/
def CreatedBy (args : Args) (us : Users) : Prop :=
  ∀ kind ∈ kinds, ∀ user, us kind.base = some user →
    ∃ key, user = ⟨key, capMap (flatten (plainCaps kind args.rgwPoolPrefix))⟩

theorem base_mem_baseUsers {kind : Kind} (hkind : kind ∈ kinds) : kind.base ∈ baseUsers := by
  have hbases : ∀ base ∈ kinds.map Kind.base, base ∈ baseUsers := by decide
  exact hbases kind.base (List.mem_map_of_mem hkind)

theorem base_mem_upgradeUsers {kind : Kind} (hkind : kind ∈ kinds) (args : Args) :
    kind.base ∈ upgradeUsers args := by
  have hbase := base_mem_baseUsers hkind
  rw [upgradeUsers]
  split
  · exact List.mem_append_left _ hbase
  · exact hbase

theorem createdBy_of_grown {args : Args} (hplain : args.restrictedAuthPermission.truthy = false)
    (hchecker : args.runAsUser = "client.healthchecker") {us us' : Users}
    (hfresh : ∀ e ∈ baseUsers, us e = none) (h : Grown args us us') : CreatedBy args us' := by
  intro kind hkind user huser
  have hnone := hfresh kind.base (base_mem_baseUsers hkind)
  rcases h kind.base with hsame | ⟨-, key, caps, ⟨e, he, newCap, hcaps, rfl⟩, hcreated⟩
  · rw [hsame, hnone] at huser
    cases huser
  · obtain ⟨kind', hkind', rfl⟩ := exists_kind he
    have hkindcaps := (of_getCapsAndEntity_kind hkind' hcaps).2
    rw [capsAndEntity_plain hkind' hplain, Except.ok.injEq, Prod.mk.injEq] at hkindcaps
    obtain ⟨rfl, hname⟩ := hkindcaps
    have hbase : kind'.base = kind.base := by
      rw [← hname, plainName]
      split
      · rename_i hcsi
        rw [hchecker, hcsi]
      · rfl
    have hkinds : kind' = kind := List.inj_on_of_nodup_map nodup_bases hkind' hkind hbase
    rw [huser, Option.some_inj] at hcreated
    exact ⟨key, by rw [hcreated, hkinds]⟩

section Upgrade

variable {σ : Type} {party : Party Op Reply σ} {users : σ → Users} {reads : List String → Prop}
  (printable : Char → Bool)

theorem pool_of_created (laws : AuthLaws party users) {args : Args}
    (hpoolPrefix : PlainPrefix args.rgwPoolPrefix) {s : σ} (hcreated : CreatedBy args (users s))
    {kind : Kind} (hkind : kind ∈ kinds) (entry : AuthEntry)
    (hfound : MonReply.found (party (.authGet kind.base) s).1 = some entry) :
    ∃ args₁ : Args, getRgwPoolNameDuringUpgrade { upgrade := true } kind.base
        (reprDict printable entry.caps) = .ok args₁ ∧
      args₁.restrictedAuthPermission.truthy = false ∧
      plainCaps kind args₁.rgwPoolPrefix = plainCaps kind args.rgwPoolPrefix ∧
      (kind.base ≠ "client.healthchecker" → args₁ = { upgrade := true }) := by
  rw [getRgwPoolNameDuringUpgrade]
  by_cases hchecker : kind.base = "client.healthchecker"
  · obtain ⟨user, huser, -, hcaps⟩ := laws.get_found _ s entry hfound
    obtain ⟨key, rfl⟩ := hcreated kind hkind user huser
    rw [plainCaps, if_pos hchecker] at hcaps
    have hsearch := searchPool_of_created printable args hpoolPrefix _ _
      (getDefaultUserCapsAndEntity_eq args) entry.caps
      (fun service => by simpa [capMap] using hcaps service)
    rw [if_pos ⟨hchecker, rfl⟩, hsearch]
    exact ⟨_, rfl, rfl, by simp [String.ofList_toList], fun h => absurd hchecker h⟩
  · rw [if_neg (fun h => hchecker h.1)]
    exact ⟨_, rfl, rfl, by rw [plainCaps, plainCaps, if_neg hchecker, if_neg hchecker],
      fun _ => rfl⟩

theorem checker_last {front back : List String} {e : String}
    (h : baseUsers = front ++ e :: back) (hback : back ≠ []) : e ≠ "client.healthchecker" := by
  have hcsi : ∀ e ∈ baseUsers.dropLast, e ≠ "client.healthchecker" := by decide
  apply hcsi
  rw [h, List.dropLast_append_cons, List.dropLast_cons_of_ne_nil hback]
  simp

theorem upgrade_of_created (laws : Reliable party users reads) (args : Args)
    (hplainargs : args.restrictedAuthPermission.truthy = false)
    (hlegible : Legible users reads args)
    (hpoolPrefix : PlainPrefix args.rgwPoolPrefix) (hcomma : ',' ∉ args.rgwPoolPrefix.toList)
    {s : σ} (hcreated : CreatedBy args (users s)) :
    Ends party (upgradeUsersPermissions printable { upgrade := true }) s
      (fun _ s' => users s' = users s) (fun _ _ => False) := by
  rw [upgradeUsersPermissions, show upgradeUsers { upgrade := true } = baseUsers from rfl]
  refine (ends_foldlM (I := fun front args₁ s₁ =>
    (front ≠ baseUsers → args₁ = { upgrade := true }) ∧ users s₁ = users s) ?_
    ⟨fun _ => rfl, rfl⟩).mono (fun _ _ hend => hend.2) (fun _ _ hend => hend)
  rintro front e back hsplit args₁ s₁ ⟨hargs, hsame⟩
  have hfront : front ≠ baseUsers := by
    intro heq
    have hlen := congrArg List.length (heq ▸ hsplit)
    simp at hlen
  obtain ⟨kind, hkind, rfl⟩ := exists_kind (show e ∈ baseUsers by simp [hsplit])
  rw [hargs hfront]
  have hget := laws.same_users (.authGet kind.base) s₁ rfl
  have hpool := pool_of_created printable laws.toAuthLaws hpoolPrefix (hsame ▸ hcreated) hkind
  refine (ends_upgradeUserPermissions printable laws.toAuthLaws _ kind.base s₁).mono ?_ ?_
  · intro args₂ s₂ hstep
    generalize users s₂ = users₂ at hstep ⊢
    cases hstep with
    | notFound => exact ⟨fun _ => rfl, hsame⟩
    | @upgraded entry user args₃ args₂ newCap name hfound huser hdesc hpoolargs hcaps =>
      obtain ⟨args₄, hargs₄, hplain, hsamecaps, hcsi⟩ := hpool _ hfound
      rw [hargs₄, Except.ok.injEq] at hpoolargs
      subst hpoolargs
      obtain ⟨rfl, hkindcaps⟩ := of_getCapsAndEntity_kind hkind hcaps
      rw [capsAndEntity_plain hkind hplain, Except.ok.injEq, Prod.mk.injEq] at hkindcaps
      obtain ⟨rfl, -⟩ := hkindcaps
      obtain ⟨key, rfl⟩ := hcreated kind hkind user (hsame ▸ huser)
      have hsettled := settled_of_written (plain_written hkind hcomma) key
      refine ⟨fun hmore => hcsi (checker_last hsplit ?_), ?_⟩
      · rintro rfl
        exact hmore hsplit.symm
      · rw [hsamecaps, hsettled, ← hsame, ← huser, Function.update_eq_self]
  · intro stop s₂ hstep
    generalize users s₂ = users₂ at hstep
    cases hstep with
    | noPool hfound hpoolargs =>
      obtain ⟨args₃, hargs₃, -⟩ := hpool _ hfound
      rw [hargs₃] at hpoolargs
      cases hpoolargs
    | noCaps hfound huser hpoolargs hcaps =>
      obtain ⟨args₃, hargs₃, hplain, -⟩ := hpool _ hfound
      rw [hargs₃, Except.ok.injEq] at hpoolargs
      rw [← hpoolargs, getCapsAndEntity_kind hkind, capsAndEntity_plain hkind hplain] at hcaps
      cases hcaps
    | refused huser hret _ hpoolargs hcaps hfound =>
      obtain ⟨args₃, hargs₃, hplain, hsamecaps, -⟩ := hpool _ hfound
      rw [hargs₃, Except.ok.injEq] at hpoolargs
      subst hpoolargs
      obtain ⟨rfl, hkindcaps⟩ := of_getCapsAndEntity_kind hkind hcaps
      rw [capsAndEntity_plain hkind hplain, Except.ok.injEq, Prod.mk.injEq] at hkindcaps
      obtain ⟨rfl, -⟩ := hkindcaps
      apply hret
      apply laws.caps_works
      · rw [hget, huser]
        rfl
      · rw [hsamecaps]
        exact hlegible s₁ kind.base (base_mem_upgradeUsers hkind args) _ _ _ _ huser
          (by rw [getCapsAndEntity_kind hkind, capsAndEntity_plain hkind hplainargs]; rfl)

end Upgrade

section Script

variable {σ : Type} {party : Party Op Reply σ} {users : σ → Users} {reads : List String → Prop}
  (py : Python)

theorem createdBy_script (laws : AuthLaws party users) {args : Args}
    (hexport : args.upgrade = false) (hplain : args.restrictedAuthPermission.truthy = false)
    (hchecker : (exportArgs args).runAsUser = "client.healthchecker") {us : Users}
    (hfresh : ∀ e ∈ baseUsers, us e = none) :
    Leads party users (script py args) us (fun _ us' => CreatedBy (exportArgs args) us')
      (CreatedBy (exportArgs args)) := by
  have hcreated : ∀ us', GrownBy py (exportArgs args) us us' → CreatedBy (exportArgs args) us' := by
    rintro us' ⟨args', ⟨fs, metadataPool, dataPool, rfl⟩, hgrown⟩
    have hcreated := fun hplain hchecker => createdBy_of_grown hplain hchecker hfresh hgrown
    exact hcreated hplain hchecker
  exact (leads_export py laws hexport us).mono (fun _ us' h => hcreated us' h) hcreated

end Script

end MigrateImageRepository.ExternalCluster.FirstUpgrade
