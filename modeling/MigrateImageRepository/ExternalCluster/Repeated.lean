import MigrateImageRepository.ExternalCluster.Upgrade

/-! Upgrades that have been made already.
On a cluster that answers, an upgrade that ended without an error leaves nothing to do
for its arguments: made again, even after upgrades to other capabilities, it succeeds and
changes no user. -/

namespace MigrateImageRepository.ExternalCluster.Repeated
open Dialogue Dialogue.Prog FirstCome Cluster Permissions Upgrade Users

/-- Nothing is left to upgrade: the user has the capabilities already, as this program
writes them. -/
def Settled (newCap : Caps) (user : User) : Prop := upgradedUser newCap user = user

theorem getCap_perms_mul {newCap : Caps} {user : User} {service : String}
    (h : Settled newCap user) (hs : service ∈ capKeys) :
    perms (getCap user.caps service) * perms (getCap (newCap.lookup ·) service) =
      perms (getCap user.caps service) := by
  have hcap := getCap_upgradedUser newCap user service
  rw [h, if_pos hs, mergedCap] at hcap
  rw [← perms_mergeCaps, ← hcap]

theorem settled_of_subset {newCap newCap' : Caps} {user : User}
    (h : ∀ service ∈ capKeys, (perms (getCap (newCap.lookup ·) service)).toList ⊆
      (perms (mergedCap user.caps newCap' service)).toList) :
    Settled newCap (upgradedUser newCap' user) := by
  have hcaps : (upgradedUser newCap (upgradedUser newCap' user)).caps =
      (upgradedUser newCap' user).caps := by
    funext service
    rw [upgradedUser_caps, upgradedUser_caps]
    by_cases hs : service ∈ capKeys
    · have hmerged : mergedCap (upgradedUser newCap' user).caps newCap service =
          mergedCap user.caps newCap' service := by
        rw [mergedCap, getCap_upgradedUser, if_pos hs]
        exact mergeCaps_of_subset (written_mergeCaps _ _) (h service hs)
      rw [hmerged]
    · rw [if_neg (fun hmem => hs hmem.1), if_neg (fun hmem => hs hmem.1)]
  exact User.ext (upgradedUser_key _ _) hcaps

theorem settled_upgradedUser_self (newCap : Caps) (user : User) :
    Settled newCap (upgradedUser newCap user) := by
  apply settled_of_subset
  intro service _ p hp
  rw [mergedCap, perms_mergeCaps]
  exact Distinct.mem_mul.mpr (Or.inr hp)

theorem Settled.upgraded {newCap : Caps} {user : User} (h : Settled newCap user)
    (newCap' : Caps) : Settled newCap (upgradedUser newCap' user) := by
  apply settled_of_subset
  intro service hs p hp
  rw [mergedCap, perms_mergeCaps, ← getCap_perms_mul h hs]
  exact Distinct.mem_mul.mpr (Or.inl (Distinct.mem_mul.mpr (Or.inr hp)))

theorem exists_kind {e : String} (he : e ∈ baseUsers) : ∃ kind ∈ kinds, kind.base = e := by
  have hbases : ∀ e ∈ baseUsers, e ∈ kinds.map Kind.base := by decide
  exact List.mem_map.mp (hbases e he)

theorem getCapsAndEntity_base {e : String} (he : e ∈ baseUsers) {args args' : Args}
    {result : Caps × String} (h : getCapsAndEntity args e = .ok (args', result)) :
    args' = args := by
  obtain ⟨kind, hkind, rfl⟩ := exists_kind he
  exact (of_getCapsAndEntity_kind hkind h).1

def UpToDate (args : Args) (users : Users) : Prop :=
  ∀ e ∈ upgradeUsers args, ∀ user, users e = some user → ∃ args' newCap name,
    getCapsAndEntity args e = .ok (args', newCap, name) ∧ Settled newCap user

theorem UpToDate.step {printable : Char → Bool} {args args₁ : Args} {entity : String}
    {users users' : Users} {found : Option AuthEntry} {capsReply : List String → MonReply Unit}
    {result : Except Stop Args} (h : UpToDate args users)
    (hstep : UserUpgrade printable args₁ entity users found capsReply result users') :
    UpToDate args users' := by
  have hupdate : ∀ user newCap, users entity = some user →
      UpToDate args (Function.update users entity (some (upgradedUser newCap user))) := by
    intro user newCap huser e he user' hu'
    by_cases hentity : e = entity
    · subst hentity
      obtain ⟨args', newCap', name, hcaps, hsettled⟩ := h e he user huser
      rw [Function.update_self, Option.some_inj] at hu'
      exact ⟨args', newCap', name, hcaps, hu' ▸ hsettled.upgraded newCap⟩
    · rw [Function.update_of_ne hentity] at hu'
      exact h e he user' hu'
  cases hstep with
  | notFound => exact h
  | noPool => exact h
  | noCaps => exact h
  | refused huser _ hchanged =>
    rcases hchanged with rfl | rfl
    · exact h
    · exact hupdate _ _ huser
  | upgraded _ huser => exact hupdate _ _ huser

theorem getRgwPoolNameDuringUpgrade_of_prefix {args args₁ : Args} {entity : String}
    {caps : List Char} (hpoolPrefix : args.rgwPoolPrefix ≠ "")
    (h : getRgwPoolNameDuringUpgrade args entity caps = .ok args₁) : args₁ = args := by
  rw [getRgwPoolNameDuringUpgrade, if_neg (fun hc => hpoolPrefix hc.2)] at h
  cases h
  rfl

theorem UserUpgrade.args_eq {printable : Char → Bool} {args args' : Args} {entity : String}
    {users users' : Users} {found : Option AuthEntry} {capsReply : List String → MonReply Unit}
    (h : UserUpgrade printable args entity users found capsReply (.ok args') users')
    (hpoolPrefix : args.rgwPoolPrefix ≠ "") (he : entity ∈ baseUsers) : args' = args := by
  cases h with
  | notFound => rfl
  | upgraded _ _ _ hargs hcaps =>
    cases getRgwPoolNameDuringUpgrade_of_prefix hpoolPrefix hargs
    exact getCapsAndEntity_base he hcaps

section Runs

variable {σ : Type} {party : Party Op Reply σ} {users : σ → Users} {reads : List String → Prop}
  (printable : Char → Bool)

theorem upToDate_upgrade (laws : AuthLaws party users) {args : Args} (args₁ : Args) {s : σ}
    (h : UpToDate args (users s)) :
    UpToDate args (users ((upgradeUsersPermissions printable args₁).run party s).2) := by
  apply Ends.state (I := fun s' => UpToDate args (users s'))
  rw [upgradeUsersPermissions]
  refine ends_foldlM (I := fun _ _ s' => UpToDate args (users s')) ?_ h
  intro front entity back _ args₂ s₁ h₁
  exact (ends_upgradeUserPermissions printable laws args₂ entity s₁).mono
    (fun _ _ hstep => h₁.step hstep) (fun _ _ hstep => h₁.step hstep)

theorem upToDate_afterUpgrades (laws : AuthLaws party users) {args : Args} (runs : List Args)
    {s : σ} (h : UpToDate args (users s)) :
    UpToDate args (users (afterUpgrades printable party runs s)) := by
  induction runs generalizing s with
  | nil => exact h
  | cons args₁ runs ih => exact ih (upToDate_upgrade printable laws args₁ h)

theorem mem_baseUsers_of_split {args : Args} {front back : List String} {e : String}
    (h : upgradeUsers args = front ++ e :: back) (hback : back ≠ []) : e ∈ baseUsers := by
  rw [upgradeUsers] at h
  split at h
  · have hdrop := congrArg List.dropLast h
    rw [List.dropLast_concat, List.dropLast_append_cons,
      List.dropLast_cons_of_ne_nil hback] at hdrop
    simp [hdrop]
  · simp [h]

theorem ends_upgradeUsersPermissions (laws : AuthLaws party users) {args : Args}
    (hpoolPrefix : args.rgwPoolPrefix ≠ "") {J : List String → σ → Prop} {E : Stop → σ → Prop}
    (hok : ∀ front e back, upgradeUsers args = front ++ e :: back → ∀ s s' args', J front s →
      UpgradeFrom printable party users args e s (.ok args') (users s') → J (front ++ [e]) s')
    (herr : ∀ front e back, upgradeUsers args = front ++ e :: back → ∀ s s' stop, J front s →
      UpgradeFrom printable party users args e s (.error stop) (users s') → E stop s')
    {s : σ} (h : J [] s) :
    Ends party (upgradeUsersPermissions printable args) s
      (fun _ s' => J (upgradeUsers args) s') E := by
  rw [upgradeUsersPermissions]
  refine (ends_foldlM
    (I := fun front args₁ s₁ => (front ≠ upgradeUsers args → args₁ = args) ∧ J front s₁)
    ?_ ⟨fun _ => rfl, h⟩).mono (fun _ _ hend => hend.2) (fun _ _ hend => hend)
  rintro front e back hsplit args₁ s₁ ⟨hargs, hJ⟩
  have hfront : front ≠ upgradeUsers args := by
    intro heq
    have hlen := congrArg List.length (heq ▸ hsplit)
    simp at hlen
  rw [hargs hfront]
  refine (ends_upgradeUserPermissions printable laws args e s₁).mono ?_ ?_
  · intro args₂ s₂ hstep
    refine ⟨?_, hok front e back hsplit s₁ s₂ args₂ hJ hstep⟩
    intro hmore
    have hback : back ≠ [] := by
      rintro rfl
      exact hmore hsplit.symm
    exact UserUpgrade.args_eq hstep hpoolPrefix (mem_baseUsers_of_split hsplit hback)
  · exact fun stop s₂ hstep => herr front e back hsplit s₁ s₂ stop hJ hstep

theorem not_upgradeFrom_error (laws : Reliable party users reads) {args : Args} {e : String}
    {s : σ} (hpoolPrefix : args.rgwPoolPrefix ≠ "") (he : e ∈ upgradeUsers args)
    (hlegible : Legible users reads args)
    (hcaps : ∀ user, users s e = some user → ∃ result, getCapsAndEntity args e = .ok result)
    {stop : Stop} {users' : Users} :
    ¬ UpgradeFrom printable party users args e s (.error stop) users' := by
  intro hstep
  have hget := laws.same_users (.authGet e) s rfl
  cases hstep with
  | noPool _ hargs =>
    rw [getRgwPoolNameDuringUpgrade, if_neg (fun hc => hpoolPrefix hc.2)] at hargs
    cases hargs
  | noCaps _ huser hargs hfail =>
    cases getRgwPoolNameDuringUpgrade_of_prefix hpoolPrefix hargs
    obtain ⟨result, hok⟩ := hcaps _ huser
    rw [hfail] at hok
    cases hok
  | refused huser hret _ hargs hresult =>
    cases getRgwPoolNameDuringUpgrade_of_prefix hpoolPrefix hargs
    apply hret
    apply laws.caps_works
    · rw [hget, huser]
      rfl
    · exact hlegible s e he _ _ _ _ huser hresult

/-- On a cluster that answers, a run whose arguments suffice for the existing users
succeeds and leaves nothing to upgrade. -/
theorem upgrade_succeeds (laws : Reliable party users reads) {args : Args}
    (hpoolPrefix : args.rgwPoolPrefix ≠ "") (hlegible : Legible users reads args) {s : σ}
    (hcaps : ∀ e ∈ upgradeUsers args, ∀ user, users s e = some user →
      ∃ result, getCapsAndEntity args e = .ok result) :
    Ends party (upgradeUsersPermissions printable args) s
      (fun _ s' => UpToDate args (users s')) (fun _ _ => False) := by
  have hloop := ends_upgradeUsersPermissions printable laws.toAuthLaws hpoolPrefix (s := s)
    (J := fun front s₁ => NothingLost (upgradeUsers args) (users s) (users s₁) ∧
      ∀ e ∈ front, ∀ user, users s₁ e = some user → ∃ args₁ newCap name,
        getCapsAndEntity args e = .ok (args₁, newCap, name) ∧ Settled newCap user)
    (E := fun _ _ => False) ?_ ?_
    ⟨NothingLost.refl _ _, fun e he => absurd he List.not_mem_nil⟩
  · exact hloop.mono (fun _ _ hend => hend.2) (fun _ _ hend => hend)
  · rintro front e back hsplit s₁ s₂ args₂ ⟨hkept, hfront⟩ hstep
    have he : e ∈ upgradeUsers args := by simp [hsplit]
    refine ⟨hkept.trans (UserUpgrade.nothingLost hstep he), ?_⟩
    intro e' he' user hu
    have hworks := laws.get_works e s₁
    generalize users s₂ = users₂ at hstep hu
    rw [List.mem_append, List.mem_singleton] at he'
    cases hstep with
    | notFound hfound =>
      rcases he' with he' | rfl
      · exact hfront e' he' user hu
      · rw [hu, hfound] at hworks
        exact absurd (hworks rfl) (by simp)
    | @upgraded entry user₁ args₁ args₂ newCap name hfound huser hdesc hargs hresult =>
      cases getRgwPoolNameDuringUpgrade_of_prefix hpoolPrefix hargs
      by_cases heq : e' = e
      · subst heq
        rw [Function.update_self, Option.some_inj] at hu
        exact ⟨args₂, newCap, name, hresult, hu ▸ settled_upgradedUser_self newCap user₁⟩
      · rw [Function.update_of_ne heq] at hu
        exact hfront e' (he'.resolve_right heq) user hu
  · rintro front e back hsplit s₁ s₂ stop ⟨hkept, -⟩ hstep
    have he : e ∈ upgradeUsers args := by simp [hsplit]
    refine not_upgradeFrom_error printable laws hpoolPrefix he hlegible ?_ hstep
    intro user₁ hu
    have hrel := hkept.kept e
    rw [hu] at hrel
    generalize hu₀ : users s e = u at hrel
    cases hrel with
    | some hk => exact hcaps e he _ hu₀

theorem upgrade_of_upToDate (laws : Reliable party users reads) {args : Args}
    (hpoolPrefix : args.rgwPoolPrefix ≠ "") (hlegible : Legible users reads args) {s : σ}
    (h : UpToDate args (users s)) :
    Ends party (upgradeUsersPermissions printable args) s
      (fun _ s' => users s' = users s) (fun _ _ => False) := by
  refine ends_upgradeUsersPermissions printable laws.toAuthLaws hpoolPrefix
    (J := fun _ s₁ => users s₁ = users s) ?_ ?_ rfl
  · intro front e back hsplit s₁ s₂ args₂ hsame hstep
    have he : e ∈ upgradeUsers args := by simp [hsplit]
    generalize users s₂ = users₂ at hstep
    cases hstep with
    | notFound => exact hsame
    | @upgraded entry user args₁ args₂ newCap name hfound huser hdesc hargs hcaps =>
      cases getRgwPoolNameDuringUpgrade_of_prefix hpoolPrefix hargs
      obtain ⟨args₃, newCap', name', hcaps', hsettled⟩ := h e he user (hsame ▸ huser)
      rw [hcaps] at hcaps'
      cases hcaps'
      rw [hsettled, ← hsame, ← huser, Function.update_eq_self]
  · intro front e back hsplit s₁ s₂ stop hsame hstep
    have he : e ∈ upgradeUsers args := by simp [hsplit]
    refine not_upgradeFrom_error printable laws hpoolPrefix he hlegible ?_ hstep
    intro user huser
    obtain ⟨args₃, newCap, name, hcaps, -⟩ := h e he user (hsame ▸ huser)
    exact ⟨_, hcaps⟩

end Runs

theorem getCapsAndEntity_upgradeArgs : ∀ e ∈ upgradeUsers upgradeArgs,
    (getCapsAndEntity upgradeArgs e).isOk = true := by
  decide +kernel

end MigrateImageRepository.ExternalCluster.Repeated
