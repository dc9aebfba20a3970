import MigrateImageRepository.ExternalCluster.Created

/-! Any number of runs of the script, exports and upgrades in any order.
Whatever each of them is called with and wherever it fails, no user loses its key or a
permission, a user that no upgrade names stays as it is, and every new user was requested
by an export and has at least the capabilities of its kind. -/

namespace MigrateImageRepository.ExternalCluster.Runs
open Dialogue Dialogue.Prog Cluster Created Export Requests Upgrade Users

/-- A user that an export of these runs created, and what later upgrades made of it. -/
def MadeBy (py : Python) (runs : List Args) (e : String) (user : User) : Prop :=
  ∃ args ∈ runs, args.upgrade = false ∧
    ∃ args', Filled (lowerClusterName py (exportArgs args)) args' ∧
      ∃ key caps, Requested args' e caps ∧ Kept ⟨key, capMap caps⟩ user

structure Preserved (py : Python) (runs : List Args) (us us' : Users) : Prop where
  kept : ∀ e user, us e = some user → ∃ user', us' e = some user' ∧ Kept user user'
  other : ∀ e user, us e = some user →
    (∀ args ∈ runs, args.upgrade = true → e ∉ upgradeUsers args) → us' e = some user
  made : ∀ e user, us e = none → us' e = some user → MadeBy py runs e user

theorem MadeBy.of_subset {py : Python} {runs runs' : List Args} {e : String} {user : User}
    (h : MadeBy py runs e user) (hsub : runs ⊆ runs') : MadeBy py runs' e user := by
  obtain ⟨args, hargs, hmade⟩ := h
  exact ⟨args, hsub hargs, hmade⟩

theorem MadeBy.kept {py : Python} {runs : List Args} {e : String} {user user' : User}
    (h : MadeBy py runs e user) (hkept : Kept user user') : MadeBy py runs e user' := by
  obtain ⟨args, hargs, hexport, args', hfilled, key, caps, hrequested, hmade⟩ := h
  exact ⟨args, hargs, hexport, args', hfilled, key, caps, hrequested, hmade.trans hkept⟩

theorem Preserved.refl (py : Python) (runs : List Args) (us : Users) :
    Preserved py runs us us where
  kept _ user h := ⟨user, h, Kept.refl user⟩
  other _ _ h _ := h
  made _ _ hnone h := by rw [hnone] at h; cases h

theorem Preserved.append {py : Python} {runs runs' : List Args} {us us' us'' : Users}
    (h : Preserved py runs us us') (h' : Preserved py runs' us' us'') :
    Preserved py (runs ++ runs') us us'' where
  kept e user he := by
    obtain ⟨user', he', hkept⟩ := h.kept e user he
    obtain ⟨user'', he'', hkept'⟩ := h'.kept e user' he'
    exact ⟨user'', he'', hkept.trans hkept'⟩
  other e user he hrest :=
    h'.other e user (h.other e user he (fun args hargs =>
      hrest args (List.mem_append_left runs' hargs)))
      (fun args hargs => hrest args (List.mem_append_right runs hargs))
  made e user hnone hsome := by
    cases hmid : us' e with
    | none => exact (h'.made e user hmid hsome).of_subset (List.subset_append_right runs runs')
    | some user' =>
      obtain ⟨user'', he'', hkept⟩ := h'.kept e user' hmid
      rw [hsome, Option.some_inj] at he''
      exact ((h.made e user' hnone hmid).of_subset (List.subset_append_left runs runs')).kept
        (he'' ▸ hkept)

theorem preserved_of_nothingLost {py : Python} {args : Args} {us us' : Users}
    (hupgrade : args.upgrade = true) (h : NothingLost (upgradeUsers args) us us') :
    Preserved py [args] us us' where
  kept e user he := by
    have hrel := h.kept e
    rw [he] at hrel
    generalize us' e = found at hrel
    cases hrel with
    | some hkept => exact ⟨_, rfl, hkept⟩
  other e user he hrest := by
    rw [h.other e (hrest args List.mem_cons_self hupgrade), he]
  made e user hnone hsome := by
    have hrel := h.kept e
    rw [hnone, hsome] at hrel
    cases hrel

theorem preserved_of_grownBy {py : Python} {args : Args} {us us' : Users}
    (hexport : args.upgrade = false) (h : GrownBy py (exportArgs args) us us') :
    Preserved py [args] us us' := by
  obtain ⟨args', hfilled, hgrown⟩ := h
  exact {
    kept := fun e user he => ⟨user, hgrown.some he, Kept.refl user⟩
    other := fun e user he _ => hgrown.some he
    made := by
      intro e user hnone hsome
      rcases hgrown e with hsame | ⟨-, key, caps, hrequested, hcreated⟩
      · rw [hsame, hnone] at hsome
        cases hsome
      · rw [hsome, Option.some_inj] at hcreated
        exact ⟨args, List.mem_cons_self, hexport, args', hfilled, key, caps, hrequested,
          hcreated ▸ Kept.refl user⟩ }

section Script

variable {σ : Type} {party : Party Op Reply σ} {users : σ → Users} (py : Python)

theorem leads_upgrade (laws : AuthLaws party users) {args : Args} (hupgrade : args.upgrade = true)
    (us : Users) :
    Leads party users (generateOutput py args) us (fun _ us' => Preserved py [args] us us')
      (Preserved py [args] us) := by
  rw [generateOutput, if_pos hupgrade]
  have hends : Leads party users (upgradeUsersPermissions py.printable args) us
      (fun _ us' => NothingLost (upgradeUsers args) us us')
      (NothingLost (upgradeUsers args) us) := by
    rintro s rfl
    exact ends_nothingLost py.printable laws args s
  apply (hends.mono (fun _ _ h => h) (fun us' h => preserved_of_nothingLost hupgrade h)).bind
  exact fun _ us' h => leads_pure (preserved_of_nothingLost hupgrade h)

theorem leads_generateOutput (laws : AuthLaws party users) (args : Args)
    (hexport : args.upgrade = false) (us : Users) :
    Leads party users (generateOutput py args) us (fun _ us' => GrownBy py args us us')
      (GrownBy py args us) := by
  cases hdry : args.dryRun with
  | true =>
    have hsame : GrownBy py args us us := ⟨_, Filled.refl _, Grown.refl _ us⟩
    exact ((dryRun_generateOutput py hdry hexport).mono (fun _ hop => hop.quiet)
      (fun _ h => h)).leads (AuthLaws.quiet laws) (fun _ _ => hsame) hsame
  | false =>
    have hmap := (leads_genOutputMap laws hdry py us).mono
      (fun _ us' ⟨details, _, hfilled, hgrown, _⟩ =>
        (⟨details.args, hfilled, hgrown⟩ : GrownBy py args us us')) (fun _ h => h)
    rw [generateOutput, if_neg (by simp [hexport])]
    split
    · apply hmap.bind
      intro out us' hgrown
      rw [if_neg (by simp [hdry])]
      exact leads_ofExcept_bind (fun _ _ => leads_pure hgrown) hgrown
    · split
      · exact hmap.map
      · exact leads_fail ⟨_, Filled.refl _, Grown.refl _ us⟩

theorem leads_main (laws : AuthLaws party users) {args : Args} {us : Users} {Q : Users → Prop}
    (h : Leads party users (generateOutput py args) us (fun _ us' => Q us') Q) :
    Leads party users (main py args) us (fun _ us' => Q us') Q := by
  apply h.bind
  intro output us' hus
  exact (quiet_writeOutput args output).leads (AuthLaws.quiet laws) (fun _ _ => hus) hus

theorem init_of_upgrade {args args' : Args} (hupgrade : args.upgrade = true)
    (h : init args = .ok args') : args' = args := by
  cases args
  subst hupgrade
  rw [init, checkConflictingOptions, if_neg (by simp)] at h
  cases h
  simp

theorem leads_export (laws : AuthLaws party users) {args : Args} (hexport : args.upgrade = false)
    (us : Users) :
    Leads party users (script py args) us (fun _ us' => GrownBy py (exportArgs args) us us')
      (GrownBy py (exportArgs args) us) := by
  refine leads_ofExcept_bind ?_ ⟨_, Filled.refl _, Grown.refl _ us⟩
  intro args' hinit
  rw [init_of_export hexport hinit]
  exact leads_main py laws (leads_generateOutput py laws (exportArgs args) hexport us)

theorem leads_script (laws : AuthLaws party users) (args : Args) (us : Users) :
    Leads party users (script py args) us (fun _ us' => Preserved py [args] us us')
      (Preserved py [args] us) := by
  cases hupgrade : args.upgrade with
  | true =>
    refine leads_ofExcept_bind ?_ (Preserved.refl py [args] us)
    intro args' hinit
    rw [init_of_upgrade hupgrade hinit]
    exact leads_main py laws (leads_upgrade py laws hupgrade us)
  | false =>
    exact (leads_export py laws hupgrade us).mono
      (fun _ _ h => preserved_of_grownBy hupgrade h) (fun _ h => preserved_of_grownBy hupgrade h)

theorem preserved_of_run (laws : AuthLaws party users) (args : Args) (s : σ) :
    Preserved py [args] (users s) (users ((script py args).run party s).2) :=
  (leads_script py laws args (users s) s rfl).state
    (I := fun s' => Preserved py [args] (users s) (users s'))

def afterScripts (party : Party Op Reply σ) (runs : List Args) (s : σ) : σ :=
  runs.foldl (fun s args => ((script py args).run party s).2) s

end Script

end MigrateImageRepository.ExternalCluster.Runs
