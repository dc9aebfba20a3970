import Mathlib.Data.List.Basic

/-! Programs that talk to an outside party.
A program ends with a value, stops with an error, or asks something and goes on with
the answer. The outside party is any function from a question and its own state to
an answer and a new state. `Ends` is the pair of postconditions of a run, one for the
value and one for the error; `Asks` says what a program can ever ask and return,
whatever the answers are. -/

namespace MigrateImageRepository.Dialogue

inductive Prog (Op : Type*) (Reply : Op → Type*) (ε α : Type*) where
  | done (a : α)
  | fail (e : ε)
  | call (op : Op) (next : Reply op → Prog Op Reply ε α)

/-- What an outside party answers, and the state it is left in. -/
abbrev Party (Op : Type*) (Reply : Op → Type*) (σ : Type*) := (op : Op) → σ → Reply op × σ

namespace Prog

universe u

variable {Op : Type*} {Reply : Op → Type*} {ε σ : Type*} {α β : Type u}

def andThen (d : Prog Op Reply ε α) (f : α → Prog Op Reply ε β) : Prog Op Reply ε β :=
  match d with
  | done a => f a
  | fail e => fail e
  | call op next => call op (fun r => (next r).andThen f)

instance : Monad (Prog Op Reply ε) where
  pure := done
  bind := andThen

def ask (op : Op) : Prog Op Reply ε (Reply op) := call op done

def ofExcept : Except ε α → Prog Op Reply ε α
  | .ok a => done a
  | .error e => fail e

section Run

variable (party : Party Op Reply σ)

def run : Prog Op Reply ε α → σ → Except ε α × σ
  | done a, s => (.ok a, s)
  | fail e, s => (.error e, s)
  | call op next, s => (next (party op s).1).run (party op s).2

theorem run_bind (d : Prog Op Reply ε β) (f : β → Prog Op Reply ε α) (s : σ) :
    (d >>= f).run party s =
      match d.run party s with
      | (.ok b, s') => (f b).run party s'
      | (.error e, s') => (.error e, s') := by
  induction d generalizing s with
  | done b => rfl
  | fail e => rfl
  | call op next ih => exact ih (party op s).1 (party op s).2

theorem run_map (d : Prog Op Reply ε β) (f : β → α) (s : σ) :
    (f <$> d).run party s =
      match d.run party s with
      | (.ok b, s') => (.ok (f b), s')
      | (.error e, s') => (.error e, s') :=
  run_bind party d _ s

/-- A run that ends with a value ends in `Q`, one that ends with an error in `E`. -/
def Ends (d : Prog Op Reply ε α) (s : σ) (Q : α → σ → Prop) (E : ε → σ → Prop) : Prop :=
  match d.run party s with
  | (.ok a, s') => Q a s'
  | (.error e, s') => E e s'

variable {party} {s : σ} {Q : α → σ → Prop} {E : ε → σ → Prop}

@[simp] theorem ends_pure {a : α} :
    Ends party (pure a : Prog Op Reply ε α) s Q E ↔ Q a s := Iff.rfl

@[simp] theorem ends_fail {e : ε} :
    Ends party (fail e : Prog Op Reply ε α) s Q E ↔ E e s := Iff.rfl

@[simp] theorem ends_ask {op : Op} {Q : Reply op → σ → Prop} :
    Ends party (ask op : Prog Op Reply ε _) s Q E ↔ Q (party op s).1 (party op s).2 := Iff.rfl

@[simp] theorem ends_ofExcept_ok {a : α} :
    Ends party (ofExcept (.ok a) : Prog Op Reply ε α) s Q E ↔ Q a s := Iff.rfl

@[simp] theorem ends_ofExcept_error {e : ε} :
    Ends party (ofExcept (.error e) : Prog Op Reply ε α) s Q E ↔ E e s := Iff.rfl

@[simp] theorem ends_bind {d : Prog Op Reply ε β} {f : β → Prog Op Reply ε α} :
    Ends party (d >>= f) s Q E ↔ Ends party d s (fun b s' => Ends party (f b) s' Q E) E := by
  induction d generalizing s with
  | done b => exact Iff.rfl
  | fail e => exact Iff.rfl
  | call op next ih => exact ih (party op s).1

theorem Ends.mono {d : Prog Op Reply ε α} {Q' : α → σ → Prop} {E' : ε → σ → Prop}
    (h : Ends party d s Q E) (hQ : ∀ a s', Q a s' → Q' a s')
    (hE : ∀ e s', E e s' → E' e s') : Ends party d s Q' E' := by
  rw [Ends] at h ⊢
  split <;> rename_i heq
  · rw [heq] at h
    exact hQ _ _ h
  · rw [heq] at h
    exact hE _ _ h

theorem ends_self {d : Prog Op Reply ε α} :
    Ends party d s (fun a s' => d.run party s = (.ok a, s'))
      (fun e s' => d.run party s = (.error e, s')) := by
  rw [Ends]
  split <;> assumption

theorem Ends.state {d : Prog Op Reply ε α} {I : σ → Prop}
    (h : Ends party d s (fun _ s' => I s') (fun _ s' => I s')) : I (d.run party s).2 := by
  rw [Ends] at h
  split at h <;> rename_i heq <;> rw [heq] <;> exact h

theorem Ends.of_run {d : Prog Op Reply ε α} {a : α} {s' : σ} (h : Ends party d s Q E)
    (hrun : d.run party s = (.ok a, s')) : Q a s' := by
  rw [Ends, hrun] at h
  exact h

theorem Ends.exists_run {d : Prog Op Reply ε α}
    (h : Ends party d s Q (fun _ _ => False)) : ∃ a s', d.run party s = (.ok a, s') ∧ Q a s' := by
  rw [Ends] at h
  split at h
  · exact ⟨_, _, ‹_›, h⟩
  · exact h.elim

theorem Ends.and {d : Prog Op Reply ε α} {Q' : α → σ → Prop} {E' : ε → σ → Prop}
    (h : Ends party d s Q E) (h' : Ends party d s Q' E') :
    Ends party d s (fun a s' => Q a s' ∧ Q' a s') (fun e s' => E e s' ∧ E' e s') := by
  rw [Ends] at h h' ⊢
  split <;> rename_i heq <;> rw [heq] at h h' <;> exact ⟨h, h'⟩

theorem ends_invariant {I : σ → Prop} (hkeep : ∀ op s, I s → I (party op s).2)
    (d : Prog Op Reply ε α) {s : σ} (hs : I s) :
    Ends party d s (fun _ s' => I s') (fun _ s' => I s') := by
  induction d generalizing s with
  | done a => exact hs
  | fail e => exact hs
  | call op next ih => exact ih (party op s).1 (hkeep op s hs)

/-- The loop rule. The invariant may speak about the elements that were visited. -/
theorem ends_foldlM {xs : List β} {f : α → β → Prog Op Reply ε α} {I : List β → α → σ → Prop}
    (hstep : ∀ front x back, xs = front ++ x :: back → ∀ a s, I front a s →
      Ends party (f a x) s (I (front ++ [x])) E) {a : α} (h : I [] a s) :
    Ends party (xs.foldlM f a) s (I xs) E := by
  induction xs generalizing a s I with
  | nil => exact h
  | cons x xs ih =>
    rw [List.foldlM_cons, ends_bind]
    refine (hstep [] x xs rfl a s h).mono ?_ (fun _ _ he => he)
    intro b s' hb
    refine ih (I := fun front => I (x :: front)) ?_ hb
    intro front y back hxs c t hc
    exact hstep (x :: front) y back (by rw [hxs]; rfl) c t hc

end Run

/-- Whatever the answers are, nothing outside `P` is asked and every value is in `V`. -/
def Asks : Prog Op Reply ε α → (Op → Prop) → (α → Prop) → Prop
  | done a, _, V => V a
  | fail _, _, _ => True
  | call op next, P, V => P op ∧ ∀ r, (next r).Asks P V

section Asks

variable {P : Op → Prop} {V : α → Prop}

@[simp] theorem asks_pure {a : α} : Asks (pure a : Prog Op Reply ε α) P V ↔ V a := Iff.rfl

@[simp] theorem asks_fail {e : ε} : Asks (fail e : Prog Op Reply ε α) P V := trivial

@[simp] theorem asks_ask {op : Op} {V : Reply op → Prop} :
    Asks (ask op : Prog Op Reply ε _) P V ↔ P op ∧ ∀ r, V r := Iff.rfl

@[simp] theorem asks_ofExcept {x : Except ε α} :
    Asks (ofExcept x : Prog Op Reply ε α) P V ↔ ∀ a, x = .ok a → V a := by
  cases x <;> simp [ofExcept, Asks]

@[simp] theorem asks_bind {d : Prog Op Reply ε β} {f : β → Prog Op Reply ε α} :
    Asks (d >>= f) P V ↔ Asks d P (fun b => Asks (f b) P V) := by
  induction d with
  | done b => exact Iff.rfl
  | fail e => exact Iff.rfl
  | call op next ih => exact and_congr Iff.rfl (forall_congr' ih)

@[simp] theorem asks_map {d : Prog Op Reply ε β} {f : β → α} :
    Asks (f <$> d) P V ↔ Asks d P (fun b => V (f b)) := asks_bind

@[simp] theorem asks_ite {c : Prop} [Decidable c] {d d' : Prog Op Reply ε α} :
    Asks (if c then d else d') P V ↔ (c → Asks d P V) ∧ (¬ c → Asks d' P V) := by
  split <;> simp [*]

theorem Asks.mono {P' : Op → Prop} {V' : α → Prop} {d : Prog Op Reply ε α} (h : Asks d P V)
    (hP : ∀ op, P op → P' op) (hV : ∀ a, V a → V' a) : Asks d P' V' := by
  induction d with
  | done a => exact hV a h
  | fail e => exact trivial
  | call op next ih => exact ⟨hP op h.1, fun r => ih r (h.2 r)⟩

theorem Asks.bind {W : β → Prop} {d : Prog Op Reply ε β} {f : β → Prog Op Reply ε α}
    (h : Asks d P W) (hf : ∀ b, W b → Asks (f b) P V) : Asks (d >>= f) P V :=
  asks_bind.mpr (h.mono (fun _ hop => hop) hf)

theorem Asks.ends {party : Party Op Reply σ} {I : σ → Prop} {d : Prog Op Reply ε α}
    (h : Asks d P V) (hkeep : ∀ op, P op → ∀ s, I s → I (party op s).2) {s : σ} (hs : I s) :
    Ends party d s (fun a s' => V a ∧ I s') (fun _ s' => I s') := by
  induction d generalizing s with
  | done a => exact ⟨h, hs⟩
  | fail e => exact hs
  | call op next ih => exact ih (party op s).1 (h.2 _) (hkeep op h.1 s hs)

end Asks

section View

variable {υ : Type*} (party : Party Op Reply σ) (view : σ → υ)

/-- `Ends` for what can be seen of the state. -/
def Leads (d : Prog Op Reply ε α) (u : υ) (Q : α → υ → Prop) (E : υ → Prop) : Prop :=
  ∀ s, view s = u → Ends party d s (fun a s' => Q a (view s')) (fun _ s' => E (view s'))

variable {party view} {u : υ} {Q : α → υ → Prop} {E : υ → Prop}

theorem leads_pure {a : α} (h : Q a u) : Leads party view (pure a : Prog Op Reply ε α) u Q E := by
  rintro s rfl
  exact h

theorem leads_fail {e : ε} (h : E u) : Leads party view (fail e : Prog Op Reply ε α) u Q E := by
  rintro s rfl
  exact h

theorem Leads.mono {d : Prog Op Reply ε α} {Q' : α → υ → Prop} {E' : υ → Prop}
    (h : Leads party view d u Q E) (hQ : ∀ a v, Q a v → Q' a v) (hE : ∀ v, E v → E' v) :
    Leads party view d u Q' E' :=
  fun s hs => (h s hs).mono (fun _ _ ha => hQ _ _ ha) (fun _ _ he => hE _ he)

theorem Leads.bind {d : Prog Op Reply ε β} {f : β → Prog Op Reply ε α} {R : β → υ → Prop}
    (h : Leads party view d u R E) (hf : ∀ b v, R b v → Leads party view (f b) v Q E) :
    Leads party view (d >>= f) u Q E := by
  intro s hs
  rw [ends_bind]
  exact (h s hs).mono (fun b s' hb => hf b _ hb s' rfl) (fun _ _ he => he)

theorem Leads.map {d : Prog Op Reply ε β} {f : β → α}
    (h : Leads party view d u (fun b v => Q (f b) v) E) : Leads party view (f <$> d) u Q E :=
  h.bind (fun _ _ hb => leads_pure hb)

theorem leads_ofExcept_bind {x : Except ε β} {f : β → Prog Op Reply ε α}
    (hf : ∀ b, x = .ok b → Leads party view (f b) u Q E) (hE : E u) :
    Leads party view (ofExcept x >>= f) u Q E := by
  cases x with
  | ok b => exact hf b rfl
  | error e => exact leads_fail hE

theorem Asks.leads {P : Op → Prop} {V : α → Prop} {d : Prog Op Reply ε α} (h : Asks d P V)
    (hsame : ∀ op, P op → ∀ s, view (party op s).2 = view s) (hQ : ∀ a, V a → Q a u)
    (hE : E u) : Leads party view d u Q E := by
  intro s hs
  have hends : Ends party d s (fun a s' => V a ∧ view s' = u) (fun _ s' => view s' = u) :=
    h.ends (fun op hop s' hs' => (hsame op hop s').trans hs') hs
  exact hends.mono (fun a s' ha => ha.2 ▸ hQ a ha.1) (fun _ s' hs' => hs' ▸ hE)

theorem Asks.leads_bind {P : Op → Prop} {V : β → Prop} {d : Prog Op Reply ε β}
    {f : β → Prog Op Reply ε α} (h : Asks d P V)
    (hsame : ∀ op, P op → ∀ s, view (party op s).2 = view s)
    (hf : ∀ b, V b → Leads party view (f b) u Q E) (hE : E u) :
    Leads party view (d >>= f) u Q E :=
  (h.leads (Q := fun b v => V b ∧ v = u) hsame (fun _ hb => ⟨hb, rfl⟩) hE).bind
    (fun b _ hb => hb.2 ▸ hf b hb.1)

end View

-- unification would otherwise carry out whole runs on given inputs
attribute [irreducible] Ends

end Prog

end MigrateImageRepository.Dialogue
