import Mathlib.Algebra.Group.Defs
import Mathlib.Data.List.Nodup
import Mathlib.Order.Defs.PartialOrder

/-! Lists without repetitions, joined in first-come order.
Joining appends what is not there yet. This makes the lists a monoid in which a list
absorbs everything it already holds, and `a` is a prefix of `b` exactly when joining
`b` to `a` gives `b`. -/

namespace MigrateImageRepository.FirstCome

variable {α : Type*} [DecidableEq α]

def addNew (acc : List α) (x : α) : List α := if x ∈ acc then acc else acc ++ [x]

/-- Append the elements of `xs` one by one, leaving out those that are there already. -/
def addAll (acc xs : List α) : List α := xs.foldl addNew acc

@[simp] theorem addAll_nil (acc : List α) : addAll acc [] = acc := rfl

@[simp] theorem addAll_cons (acc : List α) (x : α) (xs : List α) :
    addAll acc (x :: xs) = addAll (addNew acc x) xs := rfl

theorem addAll_append (acc xs ys : List α) :
    addAll acc (xs ++ ys) = addAll (addAll acc xs) ys := by
  simp [addAll]

theorem mem_addNew {acc : List α} {x y : α} : y ∈ addNew acc x ↔ y ∈ acc ∨ y = x := by
  rw [addNew]
  split
  · rename_i hx
    exact ⟨Or.inl, fun h => h.elim id (fun hy => hy ▸ hx)⟩
  · simp

theorem mem_addAll {acc xs : List α} {y : α} : y ∈ addAll acc xs ↔ y ∈ acc ∨ y ∈ xs := by
  induction xs generalizing acc with
  | nil => simp
  | cons x xs ih => rw [addAll_cons, ih, mem_addNew, List.mem_cons, or_assoc]

theorem nodup_addAll {acc : List α} (h : acc.Nodup) (xs : List α) : (addAll acc xs).Nodup := by
  induction xs generalizing acc with
  | nil => exact h
  | cons x xs ih =>
    apply ih
    rw [addNew]
    split
    · exact h
    · rename_i hx
      rw [List.nodup_append]
      refine ⟨h, List.nodup_singleton x, ?_⟩
      rintro a ha b hb rfl
      exact hx (List.mem_singleton.mp hb ▸ ha)

theorem prefix_addAll (acc xs : List α) : acc <+: addAll acc xs := by
  induction xs generalizing acc with
  | nil => exact List.prefix_refl acc
  | cons x xs ih =>
    refine List.IsPrefix.trans ?_ (ih _)
    rw [addNew]
    split
    · exact List.prefix_refl acc
    · exact List.prefix_append acc [x]

theorem addAll_of_subset {acc xs : List α} (h : xs ⊆ acc) : addAll acc xs = acc := by
  induction xs with
  | nil => rfl
  | cons x xs ih =>
    rw [addAll_cons, addNew, if_pos (h List.mem_cons_self)]
    exact ih (fun y hy => h (List.mem_cons_of_mem x hy))

theorem addAll_of_nodup {acc xs : List α} (h : (acc ++ xs).Nodup) : addAll acc xs = acc ++ xs := by
  induction xs generalizing acc with
  | nil => simp
  | cons x xs ih =>
    have hx : x ∉ acc := by
      intro hmem
      exact (List.nodup_append.mp h).2.2 x hmem x List.mem_cons_self rfl
    rw [addAll_cons, addNew, if_neg hx, ih (by simpa using h)]
    simp

theorem addAll_addAll (acc xs ys : List α) :
    addAll acc (addAll xs ys) = addAll (addAll acc xs) ys := by
  induction ys generalizing xs with
  | nil => rfl
  | cons y ys ih =>
    rw [addAll_cons, addAll_cons, ih]
    by_cases hy : y ∈ xs
    · have hacc : y ∈ addAll acc xs := mem_addAll.mpr (Or.inr hy)
      rw [addNew, if_pos hy, addNew, if_pos hacc]
    · rw [addNew, if_neg hy, addAll_append]
      rfl

@[ext] structure Distinct (α : Type*) where
  toList : List α
  nodup : toList.Nodup

namespace Distinct

def ofList (xs : List α) : Distinct α := ⟨addAll [] xs, nodup_addAll List.nodup_nil xs⟩

instance : Monoid (Distinct α) where
  one := ⟨[], List.nodup_nil⟩
  mul a b := ⟨addAll a.toList b.toList, nodup_addAll a.nodup b.toList⟩
  mul_assoc a b c := Distinct.ext (addAll_addAll a.toList b.toList c.toList).symm
  one_mul a := Distinct.ext (addAll_of_nodup a.nodup)
  mul_one _ := rfl

theorem toList_mul (a b : Distinct α) : (a * b).toList = addAll a.toList b.toList := rfl

instance : PartialOrder (Distinct α) where
  le a b := a.toList <+: b.toList
  le_refl a := List.prefix_refl a.toList
  le_trans _ _ _ h h' := h.trans h'
  le_antisymm _ _ h h' := Distinct.ext (h.eq_of_length_le h'.length_le)

theorem le_mul (a b : Distinct α) : a ≤ a * b := prefix_addAll a.toList b.toList

theorem mem_mul {a b : Distinct α} {x : α} :
    x ∈ (a * b).toList ↔ x ∈ a.toList ∨ x ∈ b.toList := mem_addAll

theorem mul_eq_left {a b : Distinct α} (h : b.toList ⊆ a.toList) : a * b = a :=
  Distinct.ext (addAll_of_subset h)

theorem ofList_append (xs ys : List α) : ofList (xs ++ ys) = ofList xs * ofList ys := by
  apply Distinct.ext
  rw [toList_mul]
  simp only [ofList]
  rw [addAll_append, addAll_addAll, addAll_nil]

theorem ofList_toList (a : Distinct α) : ofList a.toList = a :=
  Distinct.ext (addAll_of_nodup a.nodup)

theorem mem_ofList {xs : List α} {x : α} : x ∈ (ofList xs).toList ↔ x ∈ xs := by
  simp [ofList, mem_addAll]

end Distinct

end MigrateImageRepository.FirstCome
