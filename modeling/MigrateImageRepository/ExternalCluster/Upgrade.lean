import Mathlib.Data.Option.Basic
import MigrateImageRepository.ExternalCluster.Permissions
import MigrateImageRepository.ExternalCluster.PoolPrefix

/-! `--upgrade`: every known user gets the permissions of the current version on top of
those it has. Each user is read and written back by two commands, and any of them may
fail. No upgrade takes a key or a permission away, and one that succeeded never needs
to be made again. -/

namespace MigrateImageRepository.ExternalCluster.Upgrade
open Dialogue Dialogue.Prog FirstCome Cluster Permissions PoolPrefix Users

def getRgwPoolNameDuringUpgrade (args : Args) (user : String) (caps : List Char) :
    Except Stop Args :=
  if user = "client.healthchecker" ∧ args.rgwPoolPrefix = "" then
    match searchPool caps with
    | some pool => .ok { args with rgwPoolPrefix := String.ofList pool }
    | none => .error (.executionFailure "failed to get rgw pool name for upgrade")
  else .ok args

def capKeys : List String := ["mon", "mgr", "osd", "mds"]

def getCap (caps : String → Option String) (service : String) : String := (caps service).getD ""

def mergedCap (existingCaps : String → Option String) (newCap : Caps) (eachCap : String) :
    String :=
  mergeCaps (getCap existingCaps eachCap) (getCap (newCap.lookup ·) eachCap)

/-- The argument of `auth caps`: the services with a capability after the merge. -/
def upgradedCaps (existingCaps : String → Option String) (newCap : Caps) : List String :=
  capKeys.flatMap (fun eachCap =>
    if mergedCap existingCaps newCap eachCap ≠ "" then
      [eachCap, mergedCap existingCaps newCap eachCap]
    else [])

section Program

variable (printable : Char → Bool)

def upgradeUserPermissions (args : Args) (user : String) : Exporter Args := do
  let reply ← authGet user
  match reply.found with
  | none =>
    print ("user " ++ user ++ " not found for upgrading.")
    pure args
  | some entry =>
    let args ← ofExcept (getRgwPoolNameDuringUpgrade args user (reprDict printable entry.caps))
    let (args, newCap, _) ← ofExcept ((getCapsAndEntity args user).mapError .executionFailure)
    let reply ← authCaps user (upgradedCaps entry.caps.lookup newCap)
    if reply.ret ≠ 0 then
      fail (.executionFailure
        ("'auth caps " ++ user ++ "' command failed.\n Error: " ++ reply.err))
    else
      print ("Updated user " ++ user ++ " successfully.")
      pure args

def baseUsers : List String :=
  ["client.csi-cephfs-node", "client.csi-cephfs-provisioner", "client.csi-rbd-node",
    "client.csi-rbd-provisioner", "client.healthchecker"]

def upgradeUsers (args : Args) : List String :=
  if args.runAsUser ≠ "" ∧ args.runAsUser ∉ baseUsers then baseUsers ++ [args.runAsUser]
  else baseUsers

def upgradeUsersPermissions (args : Args) : Exporter Args :=
  (upgradeUsers args).foldlM (upgradeUserPermissions printable) args

end Program

def upgradedUser (newCap : Caps) (user : User) : User :=
  user.setCaps (upgradedCaps user.caps newCap)

theorem capMap_flatMap (text : String → String) (keys : List String) (service : String) :
    capMap (keys.flatMap (fun key => if text key ≠ "" then [key, text key] else [])) service =
      if service ∈ keys ∧ text service ≠ "" then some (text service) else none := by
  induction keys with
  | nil => rfl
  | cons key keys ih =>
    rw [List.flatMap_cons]
    by_cases hkey : text key = ""
    · rw [if_neg (not_not_intro hkey), List.nil_append, ih]
      by_cases hs : service = key
      · subst hs
        simp [hkey]
      · simp [hs]
    · rw [if_pos hkey, capMap, List.cons_append, List.cons_append, pairs, List.lookup_cons]
      by_cases hs : service = key
      · subst hs
        simp [hkey]
      · rw [beq_false_of_ne hs]
        simpa [hs, capMap] using ih

@[simp] theorem upgradedUser_key (newCap : Caps) (user : User) :
    (upgradedUser newCap user).key = user.key := by
  rw [upgradedUser, User.setCaps]

theorem upgradedUser_caps (newCap : Caps) (user : User) (service : String) :
    (upgradedUser newCap user).caps service =
      if service ∈ capKeys ∧ mergedCap user.caps newCap service ≠ "" then
        some (mergedCap user.caps newCap service) else none := by
  rw [upgradedUser, User.setCaps, upgradedCaps, ← capMap_flatMap]

theorem getCap_upgradedUser (newCap : Caps) (user : User) (service : String) :
    getCap (upgradedUser newCap user).caps service =
      if service ∈ capKeys then mergedCap user.caps newCap service else "" := by
  rw [getCap, upgradedUser_caps]
  by_cases hs : service ∈ capKeys <;>
    by_cases hm : mergedCap user.caps newCap service = "" <;> simp [hs, hm]

/-- Key and permissions survive. A capability for a service outside the list is not sent
back to the cluster, so it may be dropped, but it is never replaced. -/
structure Kept (user user' : User) : Prop where
  key : user'.key = user.key
  perms_le : ∀ service ∈ capKeys,
    perms (getCap user.caps service) ≤ perms (getCap user'.caps service)
  other : ∀ service ∉ capKeys,
    user'.caps service = user.caps service ∨ user'.caps service = none

theorem Kept.refl (user : User) : Kept user user :=
  ⟨rfl, fun _ _ => le_refl _, fun _ _ => Or.inl rfl⟩

theorem Kept.trans {u v w : User} (h : Kept u v) (h' : Kept v w) : Kept u w where
  key := h'.key.trans h.key
  perms_le service hs := (h.perms_le service hs).trans (h'.perms_le service hs)
  other service hs := by
    rcases h'.other service hs with hsame | hnone
    · rw [hsame]
      exact h.other service hs
    · exact Or.inr hnone

theorem kept_upgradedUser (newCap : Caps) (user : User) :
    Kept user (upgradedUser newCap user) where
  key := upgradedUser_key newCap user
  perms_le service hs := by
    rw [getCap_upgradedUser, if_pos hs, mergedCap, perms_mergeCaps]
    exact Distinct.le_mul _ _
  other service hs := by
    rw [upgradedUser_caps, if_neg (fun h => hs h.1)]
    exact Or.inr rfl

theorem upgradedCaps_of_describes {entry : AuthEntry} {user : User} (h : entry.Describes user)
    (newCap : Caps) :
    upgradedCaps (fun service => entry.caps.lookup service) newCap =
      upgradedCaps user.caps newCap := by
  have hcaps : (fun service => entry.caps.lookup service) = user.caps := funext h.2
  rw [hcaps]

/-- Everything the upgrade of one user can do, given what `auth get` found and what
`auth caps` answers. -/
inductive UserUpgrade (printable : Char → Bool) (args : Args) (entity : String)
    (users : Users) (found : Option AuthEntry) (capsReply : List String → MonReply Unit) :
    Except Stop Args → Users → Prop where
  | notFound : found = none →
      UserUpgrade printable args entity users found capsReply (.ok args) users
  | noPool {entry : AuthEntry} {stop : Stop} : found = some entry →
      getRgwPoolNameDuringUpgrade args entity (reprDict printable entry.caps) = .error stop →
      UserUpgrade printable args entity users found capsReply (.error stop) users
  | noCaps {entry : AuthEntry} {user : User} {args₁ : Args} {msg : String} :
      found = some entry → users entity = some user →
      getRgwPoolNameDuringUpgrade args entity (reprDict printable entry.caps) = .ok args₁ →
      getCapsAndEntity args₁ entity = .error msg →
      UserUpgrade printable args entity users found capsReply
        (.error (.executionFailure msg)) users
  | refused {entry : AuthEntry} {user : User} {args₁ args₂ : Args} {newCap : Caps}
      {name : String} {users' : Users} : users entity = some user →
      (capsReply (upgradedCaps user.caps newCap)).ret ≠ 0 →
      users' = users ∨
        users' = Function.update users entity (some (upgradedUser newCap user)) →
      getRgwPoolNameDuringUpgrade args entity (reprDict printable entry.caps) = .ok args₁ →
      getCapsAndEntity args₁ entity = .ok (args₂, newCap, name) → found = some entry →
      UserUpgrade printable args entity users found capsReply
        (.error (.executionFailure ("'auth caps " ++ entity ++ "' command failed.\n Error: " ++
          (capsReply (upgradedCaps user.caps newCap)).err))) users'
  | upgraded {entry : AuthEntry} {user : User} {args₁ args₂ : Args} {newCap : Caps}
      {name : String} : found = some entry → users entity = some user → entry.Describes user →
      getRgwPoolNameDuringUpgrade args entity (reprDict printable entry.caps) = .ok args₁ →
      getCapsAndEntity args₁ entity = .ok (args₂, newCap, name) →
      UserUpgrade printable args entity users found capsReply (.ok args₂)
        (Function.update users entity (some (upgradedUser newCap user)))

theorem setCaps_upgradedCaps {users : Users} {entity : String} {user : User}
    (h : users entity = some user) (newCap : Caps) :
    setCaps users entity (upgradedCaps user.caps newCap) =
      Function.update users entity (some (upgradedUser newCap user)) := by
  rw [setCaps, h, Option.map_some, upgradedUser]

/-- The cluster can read what an upgrade with these arguments writes, whatever the users it
names have by then. -/
def Legible {σ : Type} (users : σ → Users) (reads : List String → Prop) (args : Args) : Prop :=
  ∀ s, ∀ e ∈ upgradeUsers args, ∀ user args' newCap name, users s e = some user →
    getCapsAndEntity args e = .ok (args', newCap, name) → reads (upgradedCaps user.caps newCap)

section Step

variable {σ : Type} {party : Party Op Reply σ} {users : σ → Users} (printable : Char → Bool)

abbrev UpgradeFrom (party : Party Op Reply σ) (users : σ → Users) (args : Args)
    (entity : String) (s : σ) : Except Stop Args → Users → Prop :=
  UserUpgrade printable args entity (users s) (MonReply.found (party (.authGet entity) s).1)
    (fun caps => (party (.authCaps entity caps) (party (.authGet entity) s).2).1)

theorem ends_upgradeUserPermissions (laws : AuthLaws party users) (args : Args)
    (entity : String) (s : σ) :
    Ends party (upgradeUserPermissions printable args entity) s
      (fun args' s' => UpgradeFrom printable party users args entity s (.ok args') (users s'))
      (fun stop s' =>
        UpgradeFrom printable party users args entity s (.error stop) (users s')) := by
  have hget := laws.same_users (.authGet entity) s rfl
  have hprint : ∀ msg s', users (party (.print msg) s').2 = users s' :=
    fun msg s' => laws.same_users (.print msg) s' rfl
  rw [upgradeUserPermissions]
  simp only [ends_bind, ends_ask]
  cases hfound : MonReply.found (party (.authGet entity) s).1 with
  | none =>
    simp only [ends_bind, ends_ask, ends_pure]
    rw [hprint, hget]
    exact .notFound hfound
  | some entry =>
    obtain ⟨user, huser, hdesc⟩ := laws.get_found _ _ _ hfound
    simp only [ends_bind]
    cases hargs : getRgwPoolNameDuringUpgrade args entity (reprDict printable entry.caps) with
    | error stop =>
      rw [ends_ofExcept_error, hget]
      exact .noPool hfound hargs
    | ok args₁ =>
      rw [ends_ofExcept_ok]
      cases hcaps : getCapsAndEntity args₁ entity with
      | error msg =>
        rw [Except.mapError, ends_ofExcept_error, hget]
        exact .noCaps hfound huser hargs hcaps
      | ok result =>
        obtain ⟨args₂, newCap, name⟩ := result
        have hchanged := laws.caps_changed entity (upgradedCaps user.caps newCap)
          (party (.authGet entity) s).2
        have hdone := laws.caps_done entity (upgradedCaps user.caps newCap)
          (party (.authGet entity) s).2
        rw [hget, setCaps_upgradedCaps huser] at hchanged hdone
        simp only [Except.mapError, ends_ofExcept_ok, ends_ask, upgradedCaps_of_describes hdesc]
        split
        · rename_i hret
          rw [ends_fail]
          exact .refused huser hret hchanged hargs hcaps hfound
        · rename_i hret
          simp only [ends_bind, ends_ask, ends_pure]
          rw [hprint, hdone (not_not.mp hret)]
          exact .upgraded hfound huser hdesc hargs hcaps

end Step

/-- The same users exist, none lost a key or a permission, and only `entities` changed. -/
structure NothingLost (entities : List String) (users users' : Users) : Prop where
  kept : ∀ e, Option.Rel Kept (users e) (users' e)
  other : ∀ e ∉ entities, users' e = users e

theorem NothingLost.refl (entities : List String) (users : Users) :
    NothingLost entities users users where
  kept e := by
    cases users e with
    | none => exact .none
    | some user => exact .some (Kept.refl user)
  other _ _ := rfl

theorem NothingLost.trans {entities : List String} {users users' users'' : Users}
    (h : NothingLost entities users users') (h' : NothingLost entities users' users'') :
    NothingLost entities users users'' where
  kept e := by
    have hleft := h.kept e
    have hright := h'.kept e
    generalize users e = u at hleft
    generalize users' e = v at hleft hright
    generalize users'' e = w at hright
    cases hleft with
    | none =>
      cases hright
      exact .none
    | some huv =>
      cases hright with
      | some hvw => exact .some (huv.trans hvw)
  other e he := (h'.other e he).trans (h.other e he)

theorem nothingLost_update {users : Users} {entity : String} {user : User}
    {entities : List String} (huser : users entity = some user) (newCap : Caps)
    (hmem : entity ∈ entities) :
    NothingLost entities users
      (Function.update users entity (some (upgradedUser newCap user))) where
  kept e := by
    by_cases hentity : e = entity
    · rw [hentity, Function.update_self, huser]
      exact .some (kept_upgradedUser newCap user)
    · rw [Function.update_of_ne hentity]
      exact (NothingLost.refl entities users).kept e
  other e he := by
    have hne : e ≠ entity := fun heq => he (heq ▸ hmem)
    rw [Function.update_of_ne hne]

theorem UserUpgrade.nothingLost {printable : Char → Bool} {args : Args} {entity : String}
    {users users' : Users} {found : Option AuthEntry} {capsReply : List String → MonReply Unit}
    {result : Except Stop Args} {entities : List String}
    (h : UserUpgrade printable args entity users found capsReply result users')
    (hmem : entity ∈ entities) : NothingLost entities users users' := by
  cases h with
  | notFound => exact NothingLost.refl entities users
  | noPool => exact NothingLost.refl entities users
  | noCaps => exact NothingLost.refl entities users
  | refused huser _ hchanged =>
    rcases hchanged with rfl | rfl
    · exact NothingLost.refl entities users'
    · exact nothingLost_update huser _ hmem
  | upgraded _ huser => exact nothingLost_update huser _ hmem

section Runs

variable {σ : Type} {party : Party Op Reply σ} {users : σ → Users} (printable : Char → Bool)

def afterUpgrades (party : Party Op Reply σ) (runs : List Args) (s : σ) : σ :=
  runs.foldl (fun s args => ((upgradeUsersPermissions printable args).run party s).2) s

theorem ends_nothingLost (laws : AuthLaws party users) (args : Args) (s : σ) :
    Ends party (upgradeUsersPermissions printable args) s
      (fun _ s' => NothingLost (upgradeUsers args) (users s) (users s'))
      (fun _ s' => NothingLost (upgradeUsers args) (users s) (users s')) := by
  rw [upgradeUsersPermissions]
  refine ends_foldlM (I := fun _ _ s' => NothingLost (upgradeUsers args) (users s) (users s'))
    ?_ (NothingLost.refl _ _)
  intro front entity back hsplit args₁ s₁ h
  have hmem : entity ∈ upgradeUsers args := by simp [hsplit]
  refine (ends_upgradeUserPermissions printable laws args₁ entity s₁).mono ?_ ?_
  · exact fun args₂ s₂ hstep => h.trans (hstep.nothingLost hmem)
  · exact fun stop s₂ hstep => h.trans (hstep.nothingLost hmem)

end Runs

def upgradeArgs : Args := { upgrade := true, rgwPoolPrefix := "default" }

end MigrateImageRepository.ExternalCluster.Upgrade
