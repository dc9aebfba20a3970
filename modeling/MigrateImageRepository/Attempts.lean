import MigrateImageRepository.FailedSteps

/-! Running the script again.
A run may be cut off after any command, with any pulls and pushes failing before
that, and the script may be generated anew in another order each time. Whatever
such attempts did, they stayed within the names of the mapping files, and one run
to the end without failures still migrates every image, unless the build host holds
something stale under a name that is copied onto itself. -/

namespace MigrateImageRepository.Attempts
open CopyBlocks CopyFailures Generator Script Sequence Buildah Migration FailedSteps

section Frame

variable {N C : Type*}

structure Untouched (cs : List (Copy N)) (σ₀ σ : Images N C) : Prop where
  published_other : ∀ n, (∀ c ∈ cs, n ≠ c.target) → σ.published n = σ₀.published n
  held_other : ∀ n, (∀ c ∈ cs, n ≠ c.source ∧ n ≠ c.target) → σ.held n = σ₀.held n

theorem untouched_refl (cs : List (Copy N)) (σ : Images N C) : Untouched cs σ σ :=
  ⟨fun _ _ => rfl, fun _ _ => rfl⟩

theorem Untouched.trans {cs : List (Copy N)} {σ₀ σ₁ σ₂ : Images N C}
    (h : Untouched cs σ₀ σ₁) (h' : Untouched cs σ₁ σ₂) : Untouched cs σ₀ σ₂ where
  published_other n hn := (h'.published_other n hn).trans (h.published_other n hn)
  held_other n hn := (h'.held_other n hn).trans (h.held_other n hn)

/-- A name copied onto itself is absent from the workspace or holds the published content. -/
def SelfFresh (cs : List (Copy N)) (σ : Images N C) : Prop :=
  ∀ c ∈ cs, c.source = c.target →
    σ.held c.source = none ∨ σ.held c.source = σ.published c.source

/-- The invariant of all tries: what is left in the workspace under a name copied onto
itself can be published without harm. -/
structure Steady (cs : List (Copy N)) (σ₀ σ : Images N C) : Prop
    extends Untouched cs σ₀ σ where
  self_published : ∀ c ∈ cs, c.source = c.target →
    σ.published c.source = σ₀.published c.source
  self_held : ∀ c ∈ cs, c.source = c.target →
    σ.held c.source = none ∨ σ.held c.source = σ₀.published c.source

theorem SelfFresh.steady {cs : List (Copy N)} {σ : Images N C} (h : SelfFresh cs σ) :
    Steady cs σ σ where
  toUntouched := untouched_refl cs σ
  self_published _ _ _ := rfl
  self_held := h

theorem Steady.published_source {cs : List (Copy N)} {σ₀ σ : Images N C}
    (h : Steady cs σ₀ σ) (hcs : Consistent cs) {c : Copy N} (hc : c ∈ cs) :
    σ.published c.source = σ₀.published c.source := by
  by_cases hother : ∀ d ∈ cs, c.source ≠ d.target
  · exact h.published_other _ hother
  · push Not at hother
    obtain ⟨d, hd, hdc⟩ := hother
    exact h.self_published c hc (hcs.source_eq hd hc hdc.symm).2.symm

theorem Steady.migrated {cs : List (Copy N)} {σ₀ σ σ' : Images N C}
    (h : Steady cs σ₀ σ) (hcs : Consistent cs) (hmig : Migrated cs σ σ') :
    Migrated cs σ₀ σ' where
  published_target c hc := by
    rw [hmig.published_target c hc, h.published_source hcs hc]
  published_other n hn := (hmig.published_other n hn).trans (h.published_other n hn)
  held_named := hmig.held_named
  held_other n hn := (hmig.held_other n hn).trans (h.held_other n hn)

end Frame

variable {C : Type}

section Commands

variable {host : Host C} (laws : BuildahLaws host)

include laws

theorem pull_frame (s : String) (σ : Images String C) :
    (host ["buildah", "pull", s] σ).1.published = σ.published ∧
      ∀ n, n ≠ s → (host ["buildah", "pull", s] σ).1.held n = σ.held n := by
  cases hs : σ.published s with
  | some x =>
    rw [laws.pull_found _ _ _ hs]
    refine ⟨rfl, ?_⟩
    intro n hn
    simp [hn]
  | none =>
    rw [laws.pull_missing _ _ hs]
    exact ⟨rfl, fun _ _ => rfl⟩

theorem tag_frame (s t : String) (σ : Images String C) :
    (host ["buildah", "tag", s, t] σ).1.published = σ.published ∧
      ∀ n, n ≠ t → (host ["buildah", "tag", s, t] σ).1.held n = σ.held n := by
  cases hs : σ.held s with
  | some x =>
    rw [laws.tag_found _ _ _ _ hs]
    refine ⟨rfl, ?_⟩
    intro n hn
    simp [hn]
  | none =>
    rw [laws.tag_missing _ _ _ hs]
    exact ⟨rfl, fun _ _ => rfl⟩

theorem push_frame (t : String) (σ : Images String C) :
    (host ["buildah", "push", t] σ).1.held = σ.held ∧
      ∀ n, n ≠ t → (host ["buildah", "push", t] σ).1.published n = σ.published n := by
  cases ht : σ.held t with
  | some x =>
    rw [laws.push_found _ _ _ ht]
    refine ⟨rfl, ?_⟩
    intro n hn
    simp [hn]
  | none =>
    rw [laws.push_missing _ _ ht]
    exact ⟨rfl, fun _ _ => rfl⟩

theorem blockCommands_frame {cs : List (Copy String)} {c : Copy String} (hc : c ∈ cs)
    {ws : List String} (hws : ws ∈ blockCommands c) (σ : Images String C) :
    Untouched cs σ (host ws σ).1 := by
  simp only [blockCommands, List.mem_cons, List.not_mem_nil, or_false] at hws
  rcases hws with rfl | rfl | rfl | rfl
  · have hpull := pull_frame laws c.source σ
    exact ⟨fun n _ => congrFun hpull.1 n, fun n hn => hpull.2 n (hn c hc).1⟩
  · have htag := tag_frame laws c.source c.target σ
    exact ⟨fun n _ => congrFun htag.1 n, fun n hn => htag.2 n (hn c hc).2⟩
  · have hpush := push_frame laws c.target σ
    exact ⟨fun n hn => hpush.2 n (hn c hc), fun n _ => congrFun hpush.1 n⟩
  · refine ⟨fun n _ => ?_, fun n hn => ?_⟩
    · rw [laws.rmi_published]
    · exact laws.rmi_other σ _ _ n (hn c hc).1 (hn c hc).2

/-- What one command does to a name copied onto itself: the pull refreshes it, the push
publishes what is there, and only its own block can do either. -/
theorem blockCommands_steady {cs : List (Copy String)} (hcs : Consistent cs)
    {d : Copy String} (hd : d ∈ cs) {ws : List String} (hws : ws ∈ blockCommands d)
    {σ₀ σ : Images String C} (h : Steady cs σ₀ σ) : Steady cs σ₀ (host ws σ).1 := by
  have hframe := h.toUntouched.trans (blockCommands_frame laws hd hws σ)
  simp only [blockCommands, List.mem_cons, List.not_mem_nil, or_false] at hws
  rcases hws with rfl | rfl | rfl | rfl
  · have hpull := pull_frame laws d.source σ
    refine ⟨hframe, fun c hc hself => ?_, fun c hc hself => ?_⟩
    · rw [hpull.1, h.self_published c hc hself]
    · by_cases hname : c.source = d.source
      · cases hs : σ.published d.source with
        | some x =>
          rw [laws.pull_found _ _ _ hs, ← h.self_published c hc hself, hname, hs]
          exact Or.inr (by simp)
        | none =>
          rw [laws.pull_missing _ _ hs]
          exact h.self_held c hc hself
      · rw [hpull.2 _ hname]
        exact h.self_held c hc hself
  · have htag := tag_frame laws d.source d.target σ
    refine ⟨hframe, fun c hc hself => ?_, fun c hc hself => ?_⟩
    · rw [htag.1, h.self_published c hc hself]
    · by_cases hname : c.source = d.target
      · have hsource := hcs.one_source d hd c hc (hname.symm.trans hself)
        cases hs : σ.held d.source with
        | some x =>
          have hx : σ.held c.source = some x := by rw [← hsource, hs]
          rw [laws.tag_found _ _ _ _ hs, hold_held, if_pos hname, ← hx]
          exact h.self_held c hc hself
        | none =>
          rw [laws.tag_missing _ _ _ hs]
          exact h.self_held c hc hself
      · rw [htag.2 _ hname]
        exact h.self_held c hc hself
  · have hpush := push_frame laws d.target σ
    refine ⟨hframe, fun c hc hself => ?_, fun c hc hself => ?_⟩
    · by_cases hname : c.source = d.target
      · cases ht : σ.held d.target with
        | some x =>
          have hx : σ.held c.source = some x := by rw [hname, ht]
          rw [laws.push_found _ _ _ ht, publish_published, if_pos hname, ← hx]
          exact (h.self_held c hc hself).resolve_left (by simp [hx])
        | none =>
          rw [laws.push_missing _ _ ht]
          exact h.self_published c hc hself
      · rw [hpush.2 _ hname]
        exact h.self_published c hc hself
    · rw [hpush.1]
      exact h.self_held c hc hself
  · refine ⟨hframe, fun c hc hself => ?_, fun c hc hself => ?_⟩
    · rw [laws.rmi_published, h.self_published c hc hself]
    · have hheld := h.self_held c hc hself
      by_cases hname : c.source = d.source ∨ c.source = d.target
      · rcases laws.rmi_named σ d.source d.target _ hname with hgone | hkept
        · exact Or.inl hgone
        · rwa [hkept]
      · rw [not_or] at hname
        rwa [laws.rmi_other σ _ _ _ hname.1 hname.2]

theorem shStep_frame {cs : List (Copy String)} {ws : List String}
    (hws : ws ∈ commands shHeader ∨ ∃ c ∈ cs, ws ∈ blockCommands c) (fails : ℕ → Bool)
    (i : ℕ) (σ : Images String C) : Untouched cs σ (shStep host fails i ws σ).1 := by
  rw [shStep]
  split
  · exact untouched_refl cs σ
  · rcases hws with hws | ⟨c, hc, hws⟩
    · rw [laws.setup ws hws σ]
      exact untouched_refl cs σ
    · exact blockCommands_frame laws hc hws σ

theorem blockCommands_keeps {c : Copy String} {ws : List String}
    (hws : ws ∈ blockCommands c) (σ : Images String C) {n : String}
    (h : (σ.published n).isSome) : ((host ws σ).1.published n).isSome := by
  simp only [blockCommands, List.mem_cons, List.not_mem_nil, or_false] at hws
  rcases hws with rfl | rfl | rfl | rfl
  · rwa [(pull_frame laws c.source σ).1]
  · rwa [(tag_frame laws c.source c.target σ).1]
  · by_cases hn : n = c.target
    · cases ht : σ.held c.target with
      | some x => simp [laws.push_found _ _ _ ht, hn]
      | none => rwa [laws.push_missing _ _ ht]
    · rwa [(push_frame laws c.target σ).2 n hn]
  · rwa [laws.rmi_published]

end Commands

theorem mem_commands_shScript {ord : RangeOrder} {files : List Mapping}
    (plain : PlainNames files) {ws : List String} (hws : ws ∈ commands (shScript ord files)) :
    ws ∈ commands shHeader ∨ ∃ c ∈ copies files, ws ∈ blockCommands c := by
  rw [shScript_eq, commands_shHeader_append, commands_blocks _ (plain.isWord ord),
    List.mem_append, List.mem_flatMap] at hws
  rcases hws with hws | ⟨c, hc, hws⟩
  · exact Or.inl hws
  · exact Or.inr ⟨c, (mem_emittedCopies ord files c).mp hc, hws⟩

/-- One try at running the script: the order it was generated in, the pulls and pushes that
fail, and how many commands are executed before the run is cut off. The other commands fail
only where the build host makes them fail. -/
structure Attempt where
  order : RangeOrder
  fails : ℕ → Bool
  commandsRun : ℕ

def attempt (host : Host C) (files : List Mapping) (a : Attempt) (σ : Images String C) :
    Images String C :=
  (run (shStep host a.fails) 0 ((commands (shScript a.order files)).take a.commandsRun) σ).1

def afterAttempts (host : Host C) (files : List Mapping) (tries : List Attempt)
    (σ : Images String C) : Images String C :=
  tries.foldl (fun σ a => attempt host files a σ) σ

section Retry

variable {host : Host C} (laws : BuildahLaws host) (files : List Mapping)
  (plain : PlainNames files)

include laws plain

theorem attempt_untouched (a : Attempt) (σ : Images String C) :
    Untouched (copies files) σ (attempt host files a σ) := by
  apply run_invariant (P := Untouched (copies files) σ)
  · intro j ws hws σ' h
    have hmem := mem_commands_shScript plain (List.mem_of_mem_take hws)
    exact h.trans (shStep_frame laws hmem a.fails j σ')
  · exact untouched_refl _ σ

/-- Whatever fails and wherever the tries are cut off, registry names that are no target
and local names that no entry mentions keep their contents. -/
theorem afterAttempts_untouched (tries : List Attempt) (σ : Images String C) :
    Untouched (copies files) σ (afterAttempts host files tries σ) := by
  induction tries generalizing σ with
  | nil => exact untouched_refl _ σ
  | cons a tries ih => exact (attempt_untouched laws files plain a σ).trans (ih _)

omit laws plain in
theorem afterAttempts_untouched_busybox :
    Untouched (copies busyboxFiles) staleImages
      (afterAttempts plainHost busyboxFiles
        [⟨asListed, onlyPush 0, 7⟩, ⟨asListed, noFailure, 10⟩] staleImages) :=
  afterAttempts_untouched plainHost_laws busyboxFiles
    (plainNames_of_busybox mem_copies_busyboxFiles) _ staleImages

section Fresh

variable (consistent : Consistent (copies files)) (σ : Images String C)

include consistent

theorem attempt_steady {σ₀ : Images String C} (a : Attempt) (h : Steady (copies files) σ₀ σ) :
    Steady (copies files) σ₀ (attempt host files a σ) := by
  apply run_invariant (P := Steady (copies files) σ₀)
  · intro j ws hws σ' h
    rw [shStep]
    split
    · exact h
    · rcases mem_commands_shScript plain (List.mem_of_mem_take hws) with hws | ⟨c, hc, hws⟩
      · rwa [laws.setup ws hws σ']
      · exact blockCommands_steady laws consistent hc hws h
  · exact h

theorem afterAttempts_steady {σ₀ : Images String C} (tries : List Attempt)
    (h : Steady (copies files) σ₀ σ) :
    Steady (copies files) σ₀ (afterAttempts host files tries σ) := by
  induction tries generalizing σ with
  | nil => exact h
  | cons a tries ih => exact ih _ (attempt_steady laws files plain consistent σ a h)

theorem migrated_of_selfFresh (found : ∀ c ∈ copies files, (σ.published c.source).isSome)
    (fresh : SelfFresh (copies files) σ) (tries : List Attempt) (ord : RangeOrder) :
    Migrated (copies files) σ (runScript host noFailure (shScript ord files)
      (afterAttempts host files tries σ)).1 := by
  have hsteady := afterAttempts_steady laws files plain consistent σ tries fresh.steady
  apply hsteady.migrated consistent
  apply runScript_migrated laws files _ plain _ consistent ord
  intro c hc
  rw [hsteady.published_source consistent hc]
  exact found c hc

omit consistent in
theorem attempt_keeps (a : Attempt) {n : String} (h : (σ.published n).isSome) :
    ((attempt host files a σ).published n).isSome := by
  refine run_invariant _ (P := fun s => (s.published n).isSome) _ ?_ 0 σ h
  intro j ws hws σ' h
  rw [shStep]
  split
  · exact h
  · rcases mem_commands_shScript plain (List.mem_of_mem_take hws) with hws | ⟨c, hc, hws⟩
    · rwa [laws.setup ws hws σ']
    · exact blockCommands_keeps laws hws σ' h

theorem exists_attempt_published {c : Copy String} (hc : c ∈ copies files)
    (hself : c.source = c.target) :
    ∃ a, (attempt host files a σ).published c.source =
      (σ.held c.source).or (σ.published c.source) := by
  have hcs := consistent.of_mem (mem_emittedCopies asListed files)
  have hmem := (mem_emittedCopies asListed files c).mpr hc
  obtain ⟨pre, post, hsplit, hfirst⟩ := List.eq_append_cons_of_mem hmem
  have hpre : ∀ d ∈ pre, d.target ≠ c.target := by
    intro d hd hdt
    have hds := hcs.one_source d (by simp [hsplit, hd]) c hmem hdt
    have hdc : d = c := by
      cases d
      cases c
      exact (Copy.mk.injEq _ _ _ _).mpr ⟨hds, hdt⟩
    exact hfirst (hdc ▸ hd)
  have hnew : c.target ∉ pre.map Copy.target := by
    rw [List.mem_map]
    rintro ⟨d, hd, hdt⟩
    exact hpre d hd hdt
  have hsource : c.source ∉ pre.map Copy.source := by
    rw [List.mem_map]
    rintro ⟨d, hd, hds⟩
    exact hpre d hd (hcs.no_chain c hmem d (by simp [hsplit, hd]) (hself ▸ hds.symm))
  have hleft : leftover σ pre c = σ.held c.source := by
    rw [leftover, if_neg hsource, ← hself, Option.or_self]
  obtain ⟨oks, hruns, -⟩ :=
    runScript_runs laws (onlyPush pre.length) asListed files σ (plain.isWord asListed)
  have hbs : blocksFrom (onlyPush pre.length) firstBlock
      ((emitted asListed 0 files).map copyOf) =
        pre.map dark ++ ⟨c, true, false⟩ :: post.map dark := by
    rw [← blocksFrom_onlyPush, ← hsplit]
    rfl
  rw [hbs] at hruns
  have hpub := published_of_blackout (hsplit ▸ hcs) hnew hruns
  rw [hleft, ← hself] at hpub
  refine ⟨⟨asListed, onlyPush pre.length, (commands (shScript asListed files)).length⟩, ?_⟩
  rw [attempt, List.take_length]
  exact hpub

/-- The tries leave no trace exactly when no name that is copied onto itself is stale on
the build host: then, whatever failed in them, one run to the end without failures reaches
the state that a single such run reaches from the beginning. -/
theorem retry_migrates_iff (found : ∀ c ∈ copies files, (σ.published c.source).isSome) :
    (∃ final, Migrated (copies files) σ final ∧ ∀ tries ord,
      (runScript host noFailure (shScript ord files) (afterAttempts host files tries σ)).1 =
        final) ↔ SelfFresh (copies files) σ := by
  refine ⟨?_, ?_⟩
  · rintro ⟨final, hmig, hall⟩ c hc hself
    obtain ⟨a, ha⟩ := exists_attempt_published laws files plain consistent σ hc hself
    have hfound : ∀ d ∈ copies files, ((attempt host files a σ).published d.source).isSome :=
      fun d hd => attempt_keeps laws files plain σ a (found d hd)
    have hlast := runScript_migrated laws files _ plain hfound consistent asListed
    have hfinal : (runScript host noFailure (shScript asListed files)
        (attempt host files a σ)).1 = final := hall [a] asListed
    have hsame := hlast.published_target c hc
    rw [hfinal, hmig.published_target c hc, ha] at hsame
    cases hheld : σ.held c.source with
    | none => exact Or.inl rfl
    | some x =>
      rw [hheld, Option.some_or] at hsame
      exact Or.inr hsame.symm
  · intro fresh
    have hfirst := migrated_of_selfFresh laws files plain consistent σ found fresh [] asListed
    refine ⟨_, hfirst, ?_⟩
    intro tries ord
    exact (migrated_of_selfFresh laws files plain consistent σ found fresh tries ord).unique
      hfirst

end Fresh

end Retry

def refreshed : ImageEntry :=
  ⟨[⟨"s", "busybox:1.36"⟩, ⟨"t", "busybox:1.36"⟩], by simp [List.NodupKeys, List.keys]⟩

def refreshFile : Mapping :=
  AList.singleton "middleware" (AList.singleton "elasticsearch" [refreshed])

theorem mem_copies_refreshFile :
    ∀ c ∈ copies [refreshFile], c = ⟨"busybox:1.36", "busybox:1.36"⟩ := by
  have hcopies : copies [refreshFile] = [⟨"busybox:1.36", "busybox:1.36"⟩] := rfl
  simp [hcopies]

theorem retry_migrates_iff_refreshFile :
    (∃ final, Migrated (copies [refreshFile]) staleImages final ∧ ∀ tries ord,
      (runScript plainHost noFailure (shScript ord [refreshFile])
        (afterAttempts plainHost [refreshFile] tries staleImages)).1 = final) ↔
      SelfFresh (copies [refreshFile]) staleImages := by
  have hmem := mem_copies_refreshFile
  refine retry_migrates_iff plainHost_laws [refreshFile] ?_ ⟨?_, ?_⟩ staleImages ?_
  · intro c hc
    rw [hmem c hc]
    exact ⟨plainWord_busybox.1, plainWord_busybox.1⟩
  · intro c hc d hd _
    rw [hmem c hc, hmem d hd]
  · intro c hc d hd _
    rw [hmem c hc, hmem d hd]
  · intro c hc
    rw [hmem c hc]
    simp [staleImages]

example : ¬ SelfFresh (copies [refreshFile]) staleImages := by
  intro hfresh
  have hstale := hfresh ⟨"busybox:1.36", "busybox:1.36"⟩ List.mem_cons_self rfl
  simp [staleImages] at hstale

end MigrateImageRepository.Attempts
