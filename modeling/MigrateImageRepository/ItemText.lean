import Mathlib.Data.List.DropRight

/-! Lists of items written as one text.
The items of a text are its pieces between separators, without surrounding space and
without the empty ones. Writing puts a separator and one space between two items.
Both symbol classes are predicates on an arbitrary alphabet. -/

namespace MigrateImageRepository.ItemText

variable {α : Type*} (space sep : α → Bool)

def strip (xs : List α) : List α := (xs.dropWhile space).rdropWhile space

def items (xs : List α) : List (List α) :=
  ((xs.splitOnP sep).filter (fun x => !(strip space x).isEmpty)).map (strip space)

structure IsItem (item : List α) : Prop where
  ne_nil : item ≠ []
  no_sep : ∀ a ∈ item, sep a = false
  stripped : strip space item = item

@[simp] theorem strip_nil : strip space [] = [] := rfl

@[simp] theorem items_nil : items space sep [] = [] := by
  simp [items]

variable {space sep}

theorem strip_subset (xs : List α) : strip space xs ⊆ xs :=
  fun _ ha => (List.dropWhile_sublist space).subset
    ((List.rdropWhile_prefix space (xs.dropWhile space)).subset ha)

theorem dropWhile_strip (xs : List α) :
    (strip space xs).dropWhile space = strip space xs := by
  rw [strip, List.dropWhile_eq_self_iff]
  intro hlen
  have hstart := List.rdropWhile_prefix space (xs.dropWhile space)
  have hlt := Nat.lt_of_lt_of_le hlen hstart.length_le
  rw [hstart.getElem hlen]
  exact List.dropWhile_get_zero_not space xs hlt

@[simp] theorem strip_strip (xs : List α) : strip space (strip space xs) = strip space xs := by
  have h : (strip space xs).dropWhile space = strip space xs := dropWhile_strip xs
  rw [strip, h, strip, List.rdropWhile_idempotent]

theorem strip_cons {a : α} (ha : space a = true) (xs : List α) :
    strip space (a :: xs) = strip space xs := by
  simp [strip, ha]

theorem no_sep_of_mem_splitOnP {xs piece : List α} (h : piece ∈ xs.splitOnP sep) :
    ∀ a ∈ piece, sep a = false := by
  induction xs generalizing piece with
  | nil =>
    rw [List.splitOnP_nil, List.mem_singleton] at h
    simp [h]
  | cons x xs ih =>
    rw [List.splitOnP_cons_eq_if_modifyHead] at h
    split at h
    · rcases List.mem_cons.mp h with rfl | h
      · simp
      · exact ih h
    · rename_i hx
      cases hs : xs.splitOnP sep with
      | nil => exact absurd hs (List.splitOnP_ne_nil sep xs)
      | cons first rest =>
        rw [hs, List.modifyHead_cons] at h
        rw [hs] at ih
        rcases List.mem_cons.mp h with rfl | h
        · intro a ha
          rcases List.mem_cons.mp ha with rfl | ha
          · simpa using hx
          · exact ih List.mem_cons_self a ha
        · exact ih (List.mem_cons_of_mem _ h)

theorem isItem_of_mem_items {xs item : List α} (h : item ∈ items space sep xs) :
    IsItem space sep item := by
  obtain ⟨piece, hpiece, rfl⟩ := List.mem_map.mp h
  obtain ⟨hmem, hne⟩ := List.mem_filter.mp hpiece
  refine ⟨by simpa using hne, ?_, strip_strip piece⟩
  intro a ha
  exact no_sep_of_mem_splitOnP hmem a (strip_subset piece ha)

theorem isItem_of_ends {xs : List α} (hne : xs ≠ []) (hsep : ∀ a ∈ xs, sep a = false)
    (hhead : ∀ a ∈ xs.head?, space a = false) (hlast : ∀ a ∈ xs.getLast?, space a = false) :
    IsItem space sep xs where
  ne_nil := hne
  no_sep := hsep
  stripped := by
    have hdrop : xs.dropWhile space = xs := by
      cases xs with
      | nil => rfl
      | cons x xs => exact List.dropWhile_cons_of_neg (by simp [hhead x rfl])
    rw [strip, hdrop, List.rdropWhile_eq_self_iff]
    intro hl
    simp [hlast (xs.getLast hl) (List.getLast?_eq_some_getLast hl)]

theorem items_append_cons (xs ys : List α) {a : α} (ha : sep a = true) :
    items space sep (xs ++ a :: ys) = items space sep xs ++ items space sep ys := by
  rw [items, List.splitOnP_append_cons xs ys ha, List.filter_append, List.map_append]
  rfl

theorem items_single {piece : List α} (h : ∀ a ∈ piece, sep a = false) :
    items space sep piece = [strip space piece].filter (fun x => !x.isEmpty) := by
  rw [items, List.splitOnP_eq_singleton h]
  by_cases hp : strip space piece = []
  · simp [hp]
  · simp [hp]

theorem IsItem.items_eq {item : List α} (h : IsItem space sep item) :
    items space sep item = [item] := by
  rw [items_single h.no_sep, h.stripped]
  simp [h.ne_nil]

theorem items_space_cons {b : α} (hb : space b = true) (hbs : sep b = false) (xs : List α) :
    items space sep (b :: xs) = items space sep xs := by
  cases hs : xs.splitOnP sep with
  | nil => exact absurd hs (List.splitOnP_ne_nil sep xs)
  | cons first rest =>
    have hcons : (b :: xs).splitOnP sep = (b :: first) :: rest := by
      rw [List.splitOnP_cons_eq_if_modifyHead, hs, if_neg (by simp [hbs])]
      rfl
    rw [items, items, hcons, hs]
    simp only [List.filter_cons, strip_cons hb]
    split <;> simp [strip_cons hb]

def joined (s b : α) (is : List (List α)) : List α := [s, b].intercalate is

theorem items_joined {s b : α} (hs : sep s = true) (hb : space b = true) (hbs : sep b = false)
    {is : List (List α)} (h : ∀ item ∈ is, IsItem space sep item) :
    items space sep (joined s b is) = is := by
  induction is with
  | nil => simp [joined]
  | cons item rest ih =>
    have hitem := (h item List.mem_cons_self).items_eq
    have hrest := ih (fun i hi => h i (List.mem_cons_of_mem _ hi))
    cases rest with
    | nil => simpa [joined] using hitem
    | cons next rest =>
      rw [joined, List.intercalate_cons_cons, List.append_assoc]
      rw [joined] at hrest
      rw [List.cons_append, items_append_cons _ _ hs, List.singleton_append,
        items_space_cons hb hbs, hitem, hrest, List.singleton_append]

def prefixed (s : α) (parts : List (List α)) : List α := parts.flatMap (s :: ·)

theorem prefixed_ne_cons {s a : α} (h : a ≠ s) (parts : List (List α)) (rest : List α) :
    prefixed s parts ≠ a :: rest := by
  cases parts with
  | nil => exact nofun
  | cons part parts => exact fun heq => h (List.cons.inj heq).1.symm

theorem append_prefixed_inj {s : α} {part part' : List α} {parts parts' : List (List α)}
    (h : s ∉ part) (h' : s ∉ part')
    (heq : part ++ prefixed s parts = part' ++ prefixed s parts') :
    part = part' ∧ prefixed s parts = prefixed s parts' := by
  induction part generalizing part' with
  | nil =>
    cases part' with
    | nil => exact ⟨rfl, heq⟩
    | cons b part' => exact absurd heq (prefixed_ne_cons (List.ne_of_not_mem_cons h').symm _ _)
  | cons a part ih =>
    cases part' with
    | nil => exact absurd heq.symm (prefixed_ne_cons (List.ne_of_not_mem_cons h).symm _ _)
    | cons b part' =>
      obtain ⟨rfl, htail⟩ := List.cons.inj heq
      obtain ⟨rfl, hrest⟩ := ih (List.not_mem_of_not_mem_cons h)
        (List.not_mem_of_not_mem_cons h') htail
      exact ⟨rfl, hrest⟩

/-- The parts can be read back when only the last one of the longest list may contain the
separator. -/
theorem prefixed_inj {s : α} (k : ℕ) {parts parts' : List (List α)}
    (hlen : parts.length ≤ k + 1) (hlen' : parts'.length ≤ k + 1)
    (h : ∀ part ∈ parts.take k, s ∉ part) (h' : ∀ part ∈ parts'.take k, s ∉ part)
    (heq : prefixed s parts = prefixed s parts') : parts = parts' := by
  induction k generalizing parts parts' with
  | zero =>
    rcases parts with _ | ⟨p, _ | _⟩ <;> rcases parts' with _ | ⟨q, _ | _⟩ <;>
      simp_all [prefixed]
  | succ k ih =>
    rcases parts with _ | ⟨p, parts⟩ <;> rcases parts' with _ | ⟨q, parts'⟩
    · rfl
    · simp [prefixed] at heq
    · simp [prefixed] at heq
    · rw [List.take_succ_cons, List.forall_mem_cons] at h h'
      have htail : p ++ prefixed s parts = q ++ prefixed s parts' := (List.cons.inj heq).2
      obtain ⟨rfl, hrest⟩ := append_prefixed_inj h.1 h'.1 htail
      rw [ih (Nat.le_of_succ_le_succ hlen) (Nat.le_of_succ_le_succ hlen') h.2 h'.2 hrest]

end MigrateImageRepository.ItemText
