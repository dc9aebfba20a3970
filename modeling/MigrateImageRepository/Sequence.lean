import Mathlib.Data.List.Basic

/-! Running a list of commands one after another, whatever their exit status.
A step sees its own position, so a caller can decide per position whether the
command fails. The run returns the last state and every status in order. -/

namespace MigrateImageRepository.Sequence

variable {σ κ : Type*} (step : ℕ → κ → σ → σ × Bool)

def run : ℕ → List κ → σ → σ × List Bool
  | _, [], s => (s, [])
  | i, c :: cs, s =>
    let (s', ok) := step i c s
    let (final, oks) := run (i + 1) cs s'
    (final, ok :: oks)

@[simp] theorem run_nil (i : ℕ) (s : σ) : run step i [] s = (s, []) := rfl

theorem run_cons (i : ℕ) (c : κ) (cs : List κ) (s : σ) :
    run step i (c :: cs) s =
      ((run step (i + 1) cs (step i c s).1).1,
        (step i c s).2 :: (run step (i + 1) cs (step i c s).1).2) := rfl

@[simp] theorem run_length (i : ℕ) (cs : List κ) (s : σ) :
    (run step i cs s).2.length = cs.length := by
  induction cs generalizing i s with
  | nil => rfl
  | cons c cs ih => simp [run_cons, ih]

theorem run_append (i : ℕ) (cs ds : List κ) (s : σ) :
    run step i (cs ++ ds) s =
      ((run step (i + cs.length) ds (run step i cs s).1).1,
        (run step i cs s).2 ++ (run step (i + cs.length) ds (run step i cs s).1).2) := by
  induction cs generalizing i s with
  | nil => simp
  | cons c cs ih =>
    have hi : i + 1 + cs.length = i + (cs.length + 1) := by omega
    simp only [List.cons_append, run_cons, ih, List.length_cons, hi]

/-- Commands that leave the state alone can be skipped, apart from their statuses. -/
theorem run_inert (i : ℕ) (cs : List κ) (s : σ)
    (h : ∀ j, ∀ c ∈ cs, (step j c s).1 = s) : (run step i cs s).1 = s := by
  induction cs generalizing i with
  | nil => rfl
  | cons c cs ih =>
    rw [run_cons, h i c List.mem_cons_self]
    exact ih (i + 1) (fun j d hd => h j d (List.mem_cons_of_mem _ hd))

theorem run_invariant {P : σ → Prop} (cs : List κ)
    (hstep : ∀ j, ∀ c ∈ cs, ∀ s, P s → P (step j c s).1) (i : ℕ) (s : σ) (h : P s) :
    P (run step i cs s).1 := by
  induction cs generalizing i s with
  | nil => exact h
  | cons c cs ih =>
    rw [run_cons]
    apply ih
    · exact fun j d hd => hstep j d (List.mem_cons_of_mem _ hd)
    · exact hstep i c List.mem_cons_self s h

end MigrateImageRepository.Sequence
