import Mathlib.Data.List.Infix

/-! The first piece of a text between two markers.
`between start stop` finds the leftmost `start` after which `stop` follows with no break
in between, and returns the shortest piece that lies there: a search for the pattern
`start(.*?)stop`. -/

namespace MigrateImageRepository.Between

variable {α : Type*} [DecidableEq α] (isBreak : α → Bool) (start stop : List α)

/-- The shortest piece before `stop`, unless a break comes first. -/
def upTo : List α → Option (List α)
  | [] => if stop = [] then some [] else none
  | x :: xs =>
    if stop <+: x :: xs then some []
    else if isBreak x then none
    else (upTo xs).map (x :: ·)

def between : List α → Option (List α)
  | [] => if start = [] then upTo isBreak stop [] else none
  | x :: xs =>
    if start <+: x :: xs then
      (upTo isBreak stop ((x :: xs).drop start.length)).or (between xs)
    else between xs

/-- No proper end of the marker is also its beginning. -/
def Borderless : Prop := ∀ k, 0 < k → k < stop.length → ¬ stop.drop k <+: stop

variable {isBreak start stop}

omit [DecidableEq α] in
theorem not_prefix_append (hb : Borderless stop) {piece : List α} (hne : piece ≠ [])
    (hno : ¬ stop <:+: piece) (rest : List α) : ¬ stop <+: piece ++ (stop ++ rest) := by
  intro h
  have hpiece : piece <+: piece ++ (stop ++ rest) := List.prefix_append _ _
  by_cases hlen : stop.length ≤ piece.length
  · exact hno (List.prefix_of_prefix_length_le h hpiece hlen).isInfix
  · have hlt : piece.length < stop.length := Nat.lt_of_not_le hlen
    obtain ⟨tail, htail⟩ := List.prefix_of_prefix_length_le hpiece h (Nat.le_of_lt hlt)
    have hdrop : stop.drop piece.length = tail := by
      rw [← htail, List.drop_left]
    apply hb piece.length (List.length_pos_iff.mpr hne) hlt
    rw [hdrop]
    have hmain : tail <+: stop ++ rest := by
      have h' : piece ++ tail <+: piece ++ (stop ++ rest) := htail ▸ h
      exact (List.prefix_append_right_inj piece).mp h'
    refine List.prefix_of_prefix_length_le hmain (List.prefix_append _ _) ?_
    rw [← hdrop, List.length_drop]
    exact Nat.sub_le _ _

theorem upTo_append (hb : Borderless stop) (hstop : stop ≠ []) {piece : List α}
    (hbreak : ∀ a ∈ piece, isBreak a = false) (hno : ¬ stop <:+: piece) (rest : List α) :
    upTo isBreak stop (piece ++ (stop ++ rest)) = some piece := by
  induction piece with
  | nil =>
    obtain ⟨x, xs, rfl⟩ := List.exists_cons_of_ne_nil hstop
    rw [List.nil_append, List.cons_append, upTo, if_pos]
    exact List.prefix_append (x :: xs) rest
  | cons a piece ih =>
    have hnot := not_prefix_append hb (List.cons_ne_nil a piece) hno rest
    have hrest := ih (fun b hb' => hbreak b (List.mem_cons_of_mem a hb'))
      (fun h => hno (h.trans (List.suffix_cons a piece).isInfix))
    rw [List.cons_append] at hnot
    rw [List.cons_append, upTo, if_neg hnot, hbreak a List.mem_cons_self, hrest]
    rfl

/-- The search passes over everything before the first symbol that ends `start`. -/
theorem between_append {w : List α} {c : α} (hw : c ∉ w) {before : List α} (hc : c ∉ before)
    {text piece : List α} (h : upTo isBreak stop text = some piece) :
    between isBreak (w ++ [c]) stop (before ++ (w ++ [c] ++ text)) = some piece := by
  induction before with
  | nil =>
    cases hxs : w ++ [c] ++ text with
    | nil => simp at hxs
    | cons x xs =>
      have hstart : w ++ [c] <+: x :: xs := hxs ▸ List.prefix_append _ _
      have hdrop : (x :: xs).drop (w ++ [c]).length = text := by rw [← hxs, List.drop_left]
      rw [List.nil_append, between, if_pos hstart, hdrop, h, Option.some_or]
  | cons a before ih =>
    have hnot : ¬ w ++ [c] <+: a :: (before ++ (w ++ [c] ++ text)) := by
      intro hstart
      -- the symbol under the end of `start` still lies before the real one
      have hat : (a :: before ++ w)[w.length]? = some c := by
        have hget := hstart.getElem (i := w.length) (by simp)
        have hlen : w.length < (a :: before ++ w).length := by
          simp only [List.cons_append, List.length_cons, List.length_append]
          omega
        rw [List.getElem?_eq_getElem hlen, Option.some_inj]
        have hassoc : a :: (before ++ (w ++ [c] ++ text)) = (a :: before ++ w) ++ (c :: text) := by
          simp
        simp only [hassoc, List.getElem_append_left hlen] at hget
        simpa using hget.symm
      have hmem := List.mem_of_getElem? hat
      rw [List.mem_append] at hmem
      exact hmem.elim hc hw
    rw [List.cons_append, between, if_neg hnot]
    exact ih (fun hmem => hc (List.mem_cons_of_mem a hmem))

end MigrateImageRepository.Between
