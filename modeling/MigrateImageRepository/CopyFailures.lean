import MigrateImageRepository.CopyBlocks

/-! Runs of copy blocks in which fetches and publications fail.
A failed fetch lets the block publish what the workspace already held, so a
failure is safe exactly when no such leftover is stale. The condition speaks of
the initial state and the list of copies only; both directions are proved. -/

namespace MigrateImageRepository.CopyFailures
open CopyBlocks

variable {N C : Type*}

/-- Publishing `x` under the target of `c` is no change or the change asked for. -/
def Harmless (σ₀ : Images N C) (c : Copy N) (x : Option C) : Prop :=
  x = none ∨ x = σ₀.published c.target ∨ x = σ₀.published c.source

theorem Harmless.of_some {σ₀ : Images N C} {c : Copy N} {x : Option C}
    (h : Harmless σ₀ c x) (hx : x.isSome) :
    x = σ₀.published c.target ∨ x = σ₀.published c.source :=
  h.resolve_left (fun hnone => by simp [hnone] at hx)

theorem Harmless.congr {σ₀ : Images N C} {c d : Copy N} {x : Option C}
    (h : Harmless σ₀ c x) (hs : c.source = d.source) (ht : c.target = d.target) :
    Harmless σ₀ d x := by
  rwa [Harmless, hs, ht] at h

variable [DecidableEq N]

/-- What the workspace offers for `c` after the copies `pre` when no fetch succeeds. -/
def leftover (σ₀ : Images N C) (pre : List (Copy N)) (c : Copy N) : Option C :=
  (if c.source ∈ pre.map Copy.source then none else σ₀.held c.source).or (σ₀.held c.target)

/-- No copy that is the first to its target meets a stale leftover. -/
def NoStale (σ₀ : Images N C) (cs : List (Copy N)) : Prop :=
  ∀ pre c post, cs = pre ++ c :: post → c.target ∉ pre.map Copy.target →
    Harmless σ₀ c (leftover σ₀ pre c)

structure Workspace (cs done : List (Copy N)) (σ₀ σ : Images N C) : Prop where
  held_source : ∀ c ∈ cs, σ.held c.source =
    if c.source ∈ done.map Copy.source then none else σ₀.held c.source
  held_todo : ∀ c ∈ cs, c.target ∉ done.map Copy.target →
    σ.held c.target = σ₀.held c.target

theorem workspace_nil (cs : List (Copy N)) (σ : Images N C) : Workspace cs [] σ σ :=
  ⟨by simp, fun _ _ _ => rfl⟩

section Step

variable {cs done rest : List (Copy N)} {σ₀ σ σ' : Images N C} {b : Block N}
  {ok : Bool × Bool}

omit [DecidableEq N] in
theorem held_other_target (hcs : Consistent cs) (hsplit : cs = done ++ b.toCopy :: rest)
    (heff : Effect b σ ok σ') {c : Copy N} (hc : c ∈ cs) (ht : c.target ≠ b.target) :
    σ'.held c.target = σ.held c.target := by
  refine heff.held_other _ (fun hsrc => ht ?_) ht
  exact (hcs.no_chain c hc b.toCopy (by simp [hsplit]) hsrc).symm

omit [DecidableEq N] in
theorem held_other_source (hcs : Consistent cs) (hsplit : cs = done ++ b.toCopy :: rest)
    (heff : Effect b σ ok σ') {c : Copy N} (hc : c ∈ cs) (hs : c.source ≠ b.source) :
    σ'.held c.source = σ.held c.source := by
  refine heff.held_other _ hs (fun htgt => hs ?_)
  exact (hcs.source_eq (by simp [hsplit]) hc htgt.symm).1.symm

theorem Workspace.step (hcs : Consistent cs) (hsplit : cs = done ++ b.toCopy :: rest)
    (h : Workspace cs done σ₀ σ) (heff : Effect b σ ok σ') :
    Workspace cs (done ++ [b.toCopy]) σ₀ σ' := by
  constructor
  · intro c hc
    by_cases hs : c.source = b.source
    · simp [hs, heff.held_source]
    · rw [held_other_source hcs hsplit heff hc hs, h.held_source c hc]
      simp [hs]
  · intro c hc hnew
    rw [List.map_append, List.mem_append, not_or] at hnew
    have ht : c.target ≠ b.target := by simpa using hnew.2
    rw [held_other_target hcs hsplit heff hc ht, h.held_todo c hc hnew.1]

/-- The invariant of a run without stale leftovers, whatever fails in it. -/
structure Guarded (cs done : List (Copy N)) (σ₀ σ : Images N C) : Prop
    extends Workspace cs done σ₀ σ where
  published_target : ∀ c ∈ cs, σ.published c.target = σ₀.published c.target ∨
    σ.published c.target = σ₀.published c.source
  published_other : ∀ n, (∀ c ∈ cs, n ≠ c.target) → σ.published n = σ₀.published n
  held_done : ∀ c ∈ done, Harmless σ₀ c (σ.held c.target)

omit σ in
theorem guarded_nil (cs : List (Copy N)) (σ : Images N C) : Guarded cs [] σ σ where
  toWorkspace := workspace_nil cs σ
  published_target _ _ := Or.inl rfl
  published_other _ _ := rfl
  held_done := by simp

theorem Guarded.published_source (hcs : Consistent cs) (h : Guarded cs done σ₀ σ)
    {c : Copy N} (hc : c ∈ cs) : σ.published c.source = σ₀.published c.source := by
  by_cases hw : ∀ d ∈ cs, c.source ≠ d.target
  · exact h.published_other _ hw
  · push Not at hw
    obtain ⟨d, hd, hdc⟩ := hw
    have hself := hcs.source_eq hd hc hdc.symm
    have ht := h.published_target d hd
    rw [hself.1, ← hdc, or_self] at ht
    exact ht

theorem Guarded.offered_harmless (hcs : Consistent cs)
    (hsplit : cs = done ++ b.toCopy :: rest) (hstale : NoStale σ₀ cs)
    (h : Guarded cs done σ₀ σ) : Harmless σ₀ b.toCopy (offered b σ) := by
  have hb : b.toCopy ∈ cs := by simp [hsplit]
  have hdone : ∀ c ∈ done, c ∈ cs := fun c hc => by simp [hsplit, hc]
  cases hp : pulled b σ with
  | some x =>
    have hx : σ.published b.source = some x := by
      by_cases hf : b.pullFails = true <;> simp [pulled, hf] at hp
      exact hp
    have hsrc := h.published_source hcs hb
    exact Or.inr (Or.inr (by simp [offered, atSource, hp, ← hsrc, hx]))
  | none =>
    have hoff : offered b σ = (σ.held b.source).or (σ.held b.target) := by
      simp [offered, atSource, hp]
    rw [hoff, h.held_source b.toCopy hb]
    by_cases ht : b.target ∈ done.map Copy.target
    · -- an earlier block had this target, hence this source: only the target can be left
      obtain ⟨d, hd, hdt⟩ := List.mem_map.mp ht
      have hds := hcs.one_source d (hdone d hd) b.toCopy hb hdt
      have hs : b.source ∈ done.map Copy.source := List.mem_map.mpr ⟨d, hd, hds⟩
      have hharm := (h.held_done d hd).congr hds hdt
      rwa [if_pos hs, Option.none_or, ← hdt]
    · have hleft := hstale done b.toCopy rest hsplit ht
      rwa [leftover, ← h.held_todo b.toCopy hb ht] at hleft

theorem Guarded.step (hcs : Consistent cs) (hsplit : cs = done ++ b.toCopy :: rest)
    (hstale : NoStale σ₀ cs) (h : Guarded cs done σ₀ σ) (heff : Effect b σ ok σ') :
    Guarded cs (done ++ [b.toCopy]) σ₀ σ' := by
  have hb : b.toCopy ∈ cs := by simp [hsplit]
  have hdone : ∀ c ∈ done, c ∈ cs := fun c hc => by simp [hsplit, hc]
  have hoff := h.offered_harmless hcs hsplit hstale
  refine ⟨h.toWorkspace.step hcs hsplit heff, ?_, ?_, ?_⟩
  · intro c hc
    by_cases ht : c.target = b.target
    · rw [ht, hcs.one_source c hc b.toCopy hb ht, heff.published_target]
      cases hok : ok.2 with
      | true =>
        have hpush := heff.push_ok
        rw [hok] at hpush
        exact hoff.of_some (Bool.and_eq_true_iff.mp hpush.symm).2
      | false => exact h.published_target b.toCopy hb
    · rw [heff.published_other _ ht]
      exact h.published_target c hc
  · intro n hn
    rw [heff.published_other n (hn b.toCopy hb), h.published_other n hn]
  · have hself : Harmless σ₀ b.toCopy (σ'.held b.target) := by
      rcases heff.held_target with hgone | ⟨hat, hkept⟩
      · exact Or.inl hgone
      · rwa [hkept, ← Option.none_or (o := σ.held b.target), ← hat]
    intro c hc
    rcases List.mem_append.mp hc with hc | hc
    · by_cases ht : c.target = b.target
      · have hs := hcs.one_source c (hdone c hc) b.toCopy hb ht
        rw [ht]
        exact hself.congr hs.symm ht.symm
      · rw [held_other_target hcs hsplit heff (hdone c hc) ht]
        exact h.held_done c hc
    · rw [List.mem_singleton.mp hc]
      exact hself

structure Settled (c : Copy N) (σ₀ σ : Images N C) : Prop where
  published_target : σ.published c.target = σ₀.published c.source
  held_source : σ.held c.source = none
  held_target : σ.held c.target = none

omit [DecidableEq N] in
theorem settled_of_effect (hsrc : σ.published b.source = σ₀.published b.source)
    (heff : Effect b σ (true, true) σ') : Settled b.toCopy σ₀ σ' := by
  obtain ⟨x, hx⟩ := Option.isSome_iff_exists.mp heff.pull_ok.symm
  have hpub : σ.published b.source = some x := by
    by_cases hf : b.pullFails = true <;> simp [pulled, hf] at hx
    exact hx
  have hat : atSource b σ = some x := by simp [atSource, hx]
  have htgt : σ'.published b.target = some x := by simp [heff.published_target, offered, hat]
  refine ⟨by rw [htgt, ← hsrc, hpub], heff.held_source, ?_⟩
  exact heff.held_target.resolve_right (fun hleft => by simp [hat] at hleft)

theorem Settled.step (hcs : Consistent cs) (hsplit : cs = done ++ b.toCopy :: rest)
    {c : Copy N} (hc : c ∈ cs) (hsrc : σ.published c.source = σ₀.published c.source)
    (hset : Settled c σ₀ σ) (heff : Effect b σ ok σ') : Settled c σ₀ σ' := by
  have hb : b.toCopy ∈ cs := by simp [hsplit]
  by_cases ht : c.target = b.target
  · have hs := hcs.one_source c hc b.toCopy hb ht
    have hoff : offered b σ = pulled b σ := by
      simp [offered, atSource, ← hs, ← ht, hset.held_source, hset.held_target]
    refine ⟨?_, by rw [hs, heff.held_source], ?_⟩
    · rw [ht, heff.published_target]
      cases hok : ok.2 with
      | false => rw [← ht]; exact hset.published_target
      | true =>
        have hpush := heff.push_ok
        rw [hok, hoff] at hpush
        have hsome := (Bool.and_eq_true_iff.mp hpush.symm).2
        by_cases hf : b.pullFails = true
        · simp [pulled, hf] at hsome
        · simp only [if_true, hoff, pulled, hf, hs] at hsrc ⊢
          exact hsrc
    · rcases heff.held_target with hgone | ⟨-, hkept⟩
      · rw [ht, hgone]
      · rw [ht, hkept, ← ht, hset.held_target]
  · refine ⟨by rw [heff.published_other _ ht, hset.published_target], ?_, ?_⟩
    · by_cases hs : c.source = b.source
      · rw [hs, heff.held_source]
      · rw [held_other_source hcs hsplit heff hc hs, hset.held_source]
    · rw [held_other_target hcs hsplit heff hc ht, hset.held_target]

omit [DecidableEq N] in
/-- Nothing is ever published under the source of a copy to another name. -/
theorem published_source_of_ne (hcs : Consistent cs) (hsplit : cs = done ++ b.toCopy :: rest)
    (heff : Effect b σ ok σ') {c : Copy N} (hc : c ∈ cs) (hne : c.source ≠ c.target) :
    σ'.published c.source = σ.published c.source := by
  apply heff.published_other
  intro hsrc
  have hself := hcs.source_eq (c := b.toCopy) (by simp [hsplit]) hc hsrc.symm
  exact hne hself.2.symm

end Step

section Run

variable {bs : List (Block N)} {σ₀ σ : Images N C} {oks : List (Bool × Bool)}

theorem guarded_of_runs (hcs : Consistent (bs.map Block.toCopy))
    (hstale : NoStale σ₀ (bs.map Block.toCopy)) (h : Runs bs σ₀ oks σ) :
    Guarded (bs.map Block.toCopy) (bs.map Block.toCopy) σ₀ σ := by
  have hrun := h.invariant
    (P := fun done s => Guarded (bs.map Block.toCopy) done σ₀ s) [] [] (by simp)
    (fun _ _ _ _ _ _ _ hsplit hg heff => hg.step hcs hsplit hstale heff)
    (guarded_nil _ σ₀)
  simpa using hrun

/-- One block free of failures is enough for its copy, as long as nothing else is published
under the source. -/
theorem settled_of_runs {P : List (Copy N) → Images N C → Prop}
    (hcs : Consistent (bs.map Block.toCopy)) (h : Runs bs σ₀ oks σ)
    {pre post : List (Block N)} {b : Block N} (hbs : bs = pre ++ b :: post)
    (hok : oks[pre.length]? = some (true, true)) (hstart : P [] σ₀)
    (hstep : ∀ done d rest s ok s', bs.map Block.toCopy = done ++ d.toCopy :: rest →
      P done s → Effect d s ok s' → P (done ++ [d.toCopy]) s')
    (hsrc : ∀ done s, P done s → s.published b.source = σ₀.published b.source) :
    Settled b.toCopy σ₀ σ := by
  have hcopies : bs.map Block.toCopy =
      pre.map Block.toCopy ++ b.toCopy :: post.map Block.toCopy := by simp [hbs]
  obtain ⟨σ₁, σ₂, ok, okpre, okpost, hok', hpre, hmid, hpost⟩ := (hbs ▸ h).split
  obtain rfl : ok = (true, true) := Option.some.inj (hok'.symm.trans hok)
  have hmem : b.toCopy ∈ bs.map Block.toCopy := by simp [hcopies]
  have hg := hpre.invariant (P := P) [] (b.toCopy :: post.map Block.toCopy)
    (by simpa using hcopies) (fun _ _ _ _ _ _ _ hs hp heff => hstep _ _ _ _ _ _ hs hp heff)
    hstart
  rw [List.nil_append] at hg
  have hlast := hpost.invariant (P := fun done s => P done s ∧ Settled b.toCopy σ₀ s)
    (pre.map Block.toCopy ++ [b.toCopy]) [] (by simpa using hcopies)
    (fun _ _ _ _ _ _ _ hs hp heff => ⟨hstep _ _ _ _ _ _ hs hp.1 heff,
      hp.2.step hcs hs hmem (hsrc _ _ hp.1) heff⟩)
    ⟨hstep _ _ _ _ _ _ hcopies hg hmid, settled_of_effect (hsrc _ _ hg) hmid⟩
  exact hlast.2

end Run

section Blackout

variable {pre post : List (Copy N)} {c : Copy N} {σ₀ σ : Images N C}
  {oks : List (Bool × Bool)}

def dark (c : Copy N) : Block N := ⟨c, true, true⟩

omit [DecidableEq N] in
@[simp] theorem map_dark (cs : List (Copy N)) :
    (cs.map dark).map Block.toCopy = cs := by
  rw [List.map_map]
  exact List.map_id cs

omit [DecidableEq N] in
theorem published_of_pushFails {b : Block N} {σ σ' : Images N C} {ok : Bool × Bool}
    (heff : Effect b σ ok σ') (hf : b.pushFails = true) : σ'.published = σ.published := by
  have hok : ok.2 = false := by rw [heff.push_ok, hf]; rfl
  funext n
  by_cases hn : n = b.target
  · rw [hn, heff.published_target, hok, if_neg Bool.false_ne_true]
  · exact heff.published_other n hn

omit [DecidableEq N] in
theorem published_of_dark {cs : List (Copy N)} (h : Runs (cs.map dark) σ₀ oks σ) :
    σ.published = σ₀.published := by
  refine h.invariant (P := fun _ s => s.published = σ₀.published) [] [] rfl ?_ rfl
  intro done b rest s ok s' hb _ hs heff
  obtain ⟨c, -, rfl⟩ := List.mem_map.mp hb
  rw [published_of_pushFails heff rfl, hs]

theorem published_of_blackout (hcs : Consistent (pre ++ c :: post))
    (hnew : c.target ∉ pre.map Copy.target)
    (h : Runs (pre.map dark ++ ⟨c, true, false⟩ :: post.map dark) σ₀ oks σ) :
    σ.published c.target = (leftover σ₀ pre c).or (σ₀.published c.target) := by
  obtain ⟨σ₁, σ₂, ok, okpre, okpost, -, hpre, hmid, hpost⟩ := h.split
  have hws := hpre.invariant
    (P := fun done s => Workspace (pre ++ c :: post) done σ₀ s) [] (c :: post)
    (by rw [List.nil_append, map_dark])
    (fun _ _ _ _ _ _ _ hs hw heff => hw.step hcs hs heff) (workspace_nil _ σ₀)
  rw [List.nil_append, map_dark] at hws
  have hc : c ∈ pre ++ c :: post := by simp
  have hoff : offered ⟨c, true, false⟩ σ₁ = leftover σ₀ pre c := by
    simp only [offered, atSource, pulled, if_true, Option.none_or, leftover,
      hws.held_source c hc, hws.held_todo c hc hnew]
  have hpush := hmid.push_ok
  rw [hoff] at hpush
  rw [published_of_dark hpost, hmid.published_target, hoff, hpush, published_of_dark hpre]
  cases leftover σ₀ pre c <;> rfl

/-- A stale leftover is exposed by the run in which only its publication works. -/
theorem harmless_of_blackout (hcs : Consistent (pre ++ c :: post))
    (hnew : c.target ∉ pre.map Copy.target)
    (h : Runs (pre.map dark ++ ⟨c, true, false⟩ :: post.map dark) σ₀ oks σ)
    (hsafe : σ.published c.target = σ₀.published c.target ∨
      σ.published c.target = σ₀.published c.source) :
    Harmless σ₀ c (leftover σ₀ pre c) := by
  rw [published_of_blackout hcs hnew h] at hsafe
  cases hleft : leftover σ₀ pre c with
  | none => exact Or.inl rfl
  | some x =>
    rw [hleft, Option.some_or] at hsafe
    exact Or.inr hsafe

end Blackout

end MigrateImageRepository.CopyFailures
