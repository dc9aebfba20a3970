import Mathlib.Logic.Basic
import Mathlib.Data.List.Basic

/-! Copies relayed through a workspace.
A block fetches the published content of its source into the workspace, names
it after its target, publishes the target and drops both names. Fetching and
publishing may fail; the remaining steps of the block still happen. `Effect`
says all that one block does, `Runs` chains blocks, and the two run theorems
give the outcome with no failure and with any set of failures. -/

namespace MigrateImageRepository.CopyBlocks

structure Copy (N : Type*) where
  source : N
  target : N
deriving DecidableEq

structure Block (N : Type*) extends Copy N where
  pullFails : Bool
  pushFails : Bool

@[ext] structure Images (N C : Type*) where
  held : N → Option C
  published : N → Option C

variable {N C : Type*}

def pulled (b : Block N) (σ : Images N C) : Option C :=
  if b.pullFails then none else σ.published b.source

def atSource (b : Block N) (σ : Images N C) : Option C :=
  (pulled b σ).or (σ.held b.source)

def offered (b : Block N) (σ : Images N C) : Option C :=
  (atSource b σ).or (σ.held b.target)

/-- Everything one block does, with the statuses of its fetch and its publication.
When the workspace has nothing under the source, the drop may leave the target. -/
structure Effect (b : Block N) (σ : Images N C) (ok : Bool × Bool) (σ' : Images N C) :
    Prop where
  pull_ok : ok.1 = (pulled b σ).isSome
  push_ok : ok.2 = (!b.pushFails && (offered b σ).isSome)
  published_target : σ'.published b.target =
    if ok.2 then offered b σ else σ.published b.target
  published_other : ∀ n, n ≠ b.target → σ'.published n = σ.published n
  held_source : σ'.held b.source = none
  held_target : σ'.held b.target = none ∨
    (atSource b σ = none ∧ σ'.held b.target = σ.held b.target)
  held_other : ∀ n, n ≠ b.source → n ≠ b.target → σ'.held n = σ.held n

inductive Runs : List (Block N) → Images N C → List (Bool × Bool) → Images N C → Prop
  | nil (σ : Images N C) : Runs [] σ [] σ
  | cons {b : Block N} {bs : List (Block N)} {σ σ' σ'' : Images N C} {ok : Bool × Bool}
      {oks : List (Bool × Bool)} : Effect b σ ok σ' → Runs bs σ' oks σ'' →
      Runs (b :: bs) σ (ok :: oks) σ''

/-- The induction every run theorem uses: the predicate speaks of the copies done so
far, and each step knows where it stands in the whole list. -/
theorem Runs.invariant {P : List (Copy N) → Images N C → Prop} {bs : List (Block N)}
    {cs : List (Copy N)} {σ σ' : Images N C} {oks : List (Bool × Bool)}
    (h : Runs bs σ oks σ') (done rest : List (Copy N))
    (hcs : cs = done ++ bs.map Block.toCopy ++ rest)
    (hstep : ∀ done b rest σ ok σ', b ∈ bs → cs = done ++ b.toCopy :: rest → P done σ →
      Effect b σ ok σ' → P (done ++ [b.toCopy]) σ')
    (hstart : P done σ) : P (done ++ bs.map Block.toCopy) σ' := by
  induction h generalizing done with
  | nil => simpa using hstart
  | @cons b bs _ _ _ _ _ heff _ ih =>
    have hhere : cs = done ++ b.toCopy :: (bs.map Block.toCopy ++ rest) := by simpa using hcs
    have hnext := hstep _ _ _ _ _ _ List.mem_cons_self hhere hstart heff
    have hrest := ih (done ++ [b.toCopy]) (by simpa using hcs)
      (fun d c rest s ok s' hc => hstep d c rest s ok s' (List.mem_cons_of_mem _ hc)) hnext
    simpa using hrest

theorem Runs.split {pre post : List (Block N)} {b : Block N} {σ σ' : Images N C}
    {oks : List (Bool × Bool)} (h : Runs (pre ++ b :: post) σ oks σ') :
    ∃ (σ₁ σ₂ : Images N C) (ok : Bool × Bool) (okpre okpost : List (Bool × Bool)),
      oks[pre.length]? = some ok ∧ Runs pre σ okpre σ₁ ∧ Effect b σ₁ ok σ₂ ∧
        Runs post σ₂ okpost σ' := by
  induction pre generalizing σ oks with
  | nil =>
    cases h with
    | cons heff hrest => exact ⟨σ, _, _, [], _, rfl, .nil σ, heff, hrest⟩
  | cons b' pre ih =>
    cases h with
    | cons heff hrest =>
      obtain ⟨σ₁, σ₂, ok, okpre, okpost, hok, hpre, hmid, hpost⟩ := ih hrest
      exact ⟨σ₁, σ₂, ok, _, okpost, by simpa using hok, .cons heff hpre, hmid, hpost⟩

/-- Copies that share a target share the source, and no target is the source of a
copy to another target. -/
structure Consistent (cs : List (Copy N)) : Prop where
  one_source : ∀ c ∈ cs, ∀ d ∈ cs, c.target = d.target → c.source = d.source
  no_chain : ∀ c ∈ cs, ∀ d ∈ cs, c.target = d.source → d.target = c.target

theorem Consistent.source_eq {cs : List (Copy N)} (h : Consistent cs) {c d : Copy N}
    (hc : c ∈ cs) (hd : d ∈ cs) (hcd : c.target = d.source) :
    c.source = d.source ∧ d.target = d.source := by
  have ht := h.no_chain c hc d hd hcd
  exact ⟨h.one_source c hc d hd ht.symm, ht.trans hcd⟩

theorem Consistent.of_mem {cs ds : List (Copy N)} (h : Consistent cs)
    (hmem : ∀ c, c ∈ ds ↔ c ∈ cs) : Consistent ds where
  one_source c hc d hd := h.one_source c ((hmem c).mp hc) d ((hmem d).mp hd)
  no_chain c hc d hd := h.no_chain c ((hmem c).mp hc) d ((hmem d).mp hd)

structure Migrated (cs : List (Copy N)) (σ₀ σ : Images N C) : Prop where
  published_target : ∀ c ∈ cs, σ.published c.target = σ₀.published c.source
  published_other : ∀ n, (∀ c ∈ cs, n ≠ c.target) → σ.published n = σ₀.published n
  held_named : ∀ c ∈ cs, σ.held c.source = none ∧ σ.held c.target = none
  held_other : ∀ n, (∀ c ∈ cs, n ≠ c.source ∧ n ≠ c.target) → σ.held n = σ₀.held n

theorem migrated_nil (σ : Images N C) : Migrated [] σ σ :=
  ⟨by simp, fun _ _ => rfl, by simp, fun _ _ => rfl⟩

theorem Migrated.of_mem {cs ds : List (Copy N)} {σ₀ σ : Images N C} (h : Migrated cs σ₀ σ)
    (hmem : ∀ c, c ∈ ds ↔ c ∈ cs) : Migrated ds σ₀ σ where
  published_target c hc := h.published_target c ((hmem c).mp hc)
  published_other n hn := h.published_other n (fun c hc => hn c ((hmem c).mpr hc))
  held_named c hc := h.held_named c ((hmem c).mp hc)
  held_other n hn := h.held_other n (fun c hc => hn c ((hmem c).mpr hc))

theorem Migrated.unique {cs : List (Copy N)} {σ₀ σ σ' : Images N C}
    (h : Migrated cs σ₀ σ) (h' : Migrated cs σ₀ σ') : σ = σ' := by
  ext1
  · funext n
    by_cases hn : ∀ c ∈ cs, n ≠ c.source ∧ n ≠ c.target
    · rw [h.held_other n hn, h'.held_other n hn]
    · push Not at hn
      obtain ⟨c, hc, hn⟩ := hn
      have hs := h.held_named c hc
      have hs' := h'.held_named c hc
      by_cases hsrc : n = c.source
      · rw [hsrc, hs.1, hs'.1]
      · rw [hn hsrc, hs.2, hs'.2]
  · funext n
    by_cases hn : ∀ c ∈ cs, n ≠ c.target
    · rw [h.published_other n hn, h'.published_other n hn]
    · push Not at hn
      obtain ⟨c, hc, rfl⟩ := hn
      rw [h.published_target c hc, h'.published_target c hc]

theorem Migrated.published_source {cs done : List (Copy N)} {σ₀ σ : Images N C}
    (h : Migrated done σ₀ σ) (hcs : Consistent cs) (hdone : ∀ c ∈ done, c ∈ cs)
    {c : Copy N} (hc : c ∈ cs) : σ.published c.source = σ₀.published c.source := by
  by_cases hw : ∀ d ∈ done, c.source ≠ d.target
  · exact h.published_other _ hw
  · push Not at hw
    obtain ⟨d, hd, hdc⟩ := hw
    rw [hdc, h.published_target d hd, (hcs.source_eq (hdone d hd) hc hdc.symm).1, ← hdc]

theorem Migrated.step {cs done rest : List (Copy N)} {σ₀ σ σ' : Images N C} {b : Block N}
    {ok : Bool × Bool} (hcs : Consistent cs) (hsplit : cs = done ++ b.toCopy :: rest)
    (hpull : b.pullFails = false) (hpush : b.pushFails = false)
    (hfound : (σ₀.published b.source).isSome) (h : Migrated done σ₀ σ)
    (heff : Effect b σ ok σ') : Migrated (done ++ [b.toCopy]) σ₀ σ' := by
  have hdone : ∀ c ∈ done, c ∈ cs := fun c hc => by simp [hsplit, hc]
  have hb : b.toCopy ∈ cs := by simp [hsplit]
  have hsrc : σ.published b.source = σ₀.published b.source :=
    h.published_source hcs hdone hb
  obtain ⟨x, hx⟩ := Option.isSome_iff_exists.mp hfound
  have hat : atSource b σ = some x := by simp [atSource, pulled, hpull, hsrc, hx]
  have hoff : offered b σ = some x := by simp [offered, hat]
  have hok : ok.2 = true := by rw [heff.push_ok, hpush, hoff]; rfl
  have htgt : σ'.published b.target = σ₀.published b.source := by
    rw [heff.published_target, hok, if_pos rfl, hoff, hx]
  have hheld : σ'.held b.target = none :=
    heff.held_target.resolve_right (fun hleft => by simp [hat] at hleft)
  constructor
  · intro c hc
    rcases List.mem_append.mp hc with hc | hc
    · by_cases ht : c.target = b.target
      · rw [ht, htgt, hcs.one_source c (hdone c hc) b.toCopy hb ht]
      · rw [heff.published_other _ ht, h.published_target c hc]
    · rw [List.mem_singleton.mp hc, htgt]
  · intro n hn
    have hnb := hn b.toCopy (by simp)
    rw [heff.published_other n hnb,
      h.published_other n (fun c hc => hn c (List.mem_append_left _ hc))]
  · -- a name of an earlier copy is either dropped again here or untouched
    have hdrop : ∀ n, σ.held n = none → σ'.held n = none := by
      intro n hn
      by_cases hs : n = b.source
      · rw [hs, heff.held_source]
      · by_cases ht : n = b.target
        · rw [ht, hheld]
        · rw [heff.held_other n hs ht, hn]
    intro c hc
    rcases List.mem_append.mp hc with hc | hc
    · exact ⟨hdrop _ (h.held_named c hc).1, hdrop _ (h.held_named c hc).2⟩
    · rw [List.mem_singleton.mp hc]
      exact ⟨heff.held_source, hheld⟩
  · intro n hn
    have hnb := hn b.toCopy (by simp)
    rw [heff.held_other n hnb.1 hnb.2,
      h.held_other n (fun c hc => hn c (List.mem_append_left _ hc))]

theorem Runs.migrated {bs : List (Block N)} {σ₀ σ : Images N C}
    {oks : List (Bool × Bool)} (h : Runs bs σ₀ oks σ)
    (hcs : Consistent (bs.map Block.toCopy))
    (hfails : ∀ b ∈ bs, b.pullFails = false ∧ b.pushFails = false)
    (hfound : ∀ b ∈ bs, (σ₀.published b.source).isSome) :
    Migrated (bs.map Block.toCopy) σ₀ σ := by
  have hstep : ∀ done b rest s ok s', b ∈ bs → bs.map Block.toCopy = done ++ b.toCopy :: rest →
      Migrated done σ₀ s → Effect b s ok s' → Migrated (done ++ [b.toCopy]) σ₀ s' := by
    intro done b rest s ok s' hb hsplit hmig heff
    exact hmig.step hcs hsplit (hfails b hb).1 (hfails b hb).2 (hfound b hb) heff
  simpa using h.invariant [] [] (by simp) hstep (migrated_nil σ₀)

end MigrateImageRepository.CopyBlocks
