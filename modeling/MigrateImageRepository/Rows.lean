import Mathlib.Data.List.Basic

/-! Reading a flat list as rows of fields, and writing rows back.
Rows end at a newline symbol, fields are separated by runs of blanks, and rows
without a field are dropped. Both separators are predicates on an arbitrary
alphabet; writing uses one chosen symbol of each kind. -/

namespace MigrateImageRepository.Rows

variable {α : Type*} (newline blank : α → Bool)

def fields (xs : List α) : List (List α) :=
  (xs.splitOnP blank).filter (fun field => !field.isEmpty)

@[simp] theorem fields_nil : fields blank [] = [] := by
  simp [fields]

theorem fields_append_cons (xs ys : List α) {b : α} (hb : blank b = true) :
    fields blank (xs ++ b :: ys) = fields blank xs ++ fields blank ys := by
  rw [fields, List.splitOnP_append_cons xs ys hb, List.filter_append]
  rfl

theorem ne_nil_of_mem_fields {xs field : List α} (h : field ∈ fields blank xs) :
    field ≠ [] := by
  have hne := (List.mem_filter.mp h).2
  simpa using hne

/-- A symbol list that survives splitting as one field. -/
def IsField (field : List α) : Prop :=
  field ≠ [] ∧ ∀ a ∈ field, blank a = false ∧ newline a = false

variable {newline blank}

theorem fields_single {field : List α} (h : IsField newline blank field) :
    fields blank field = [field] := by
  have hs : field.splitOnP blank = [field] :=
    List.splitOnP_eq_singleton (fun a ha => (h.2 a ha).1)
  simp [fields, hs, h.1]

theorem fields_intercalate {b : α} (hb : blank b = true) (row : List (List α))
    (h : ∀ field ∈ row, IsField newline blank field) :
    fields blank ([b].intercalate row) = row := by
  induction row with
  | nil => simp
  | cons field rest ih =>
    have hf := fields_single (h field List.mem_cons_self)
    have hr := ih (fun w hw => h w (List.mem_cons_of_mem _ hw))
    cases rest with
    | nil => simpa using hf
    | cons next rest =>
      rw [List.intercalate_cons_cons, List.append_assoc, List.singleton_append,
        fields_append_cons blank _ _ hb, hf, hr]
      rfl

variable (newline blank)

def rows (xs : List α) : List (List (List α)) :=
  ((xs.splitOnP newline).map (fields blank)).filter (fun row => !row.isEmpty)

@[simp] theorem rows_nil : rows newline blank [] = [] := by
  simp [rows]

theorem rows_append_cons (xs ys : List α) {n : α} (hn : newline n = true) :
    rows newline blank (xs ++ n :: ys) = rows newline blank xs ++ rows newline blank ys := by
  rw [rows, List.splitOnP_append_cons xs ys hn, List.map_append, List.filter_append]
  rfl

theorem ne_nil_of_mem_rows {xs : List α} {row : List (List α)}
    (hrow : row ∈ rows newline blank xs) {field : List α} (hf : field ∈ row) :
    field ≠ [] := by
  obtain ⟨line, -, rfl⟩ := List.mem_map.mp (List.mem_filter.mp hrow).1
  exact ne_nil_of_mem_fields blank hf

variable {newline blank}

theorem rows_line {line : List α} (h : ∀ a ∈ line, newline a = false) :
    rows newline blank line = [fields blank line].filter (fun row => !row.isEmpty) := by
  rw [rows, List.splitOnP_eq_singleton h]
  rfl

def unrows (n b : α) (table : List (List (List α))) : List α :=
  table.flatMap (fun row => [b].intercalate row ++ [n])

@[simp] theorem unrows_nil (n b : α) : unrows n b ([] : List (List (List α))) = [] := rfl

theorem unrows_cons (n b : α) (row : List (List α)) (table : List (List (List α))) :
    unrows n b (row :: table) = [b].intercalate row ++ n :: unrows n b table := by
  simp [unrows]

theorem unrows_append (n b : α) (t u : List (List (List α))) :
    unrows n b (t ++ u) = unrows n b t ++ unrows n b u := by
  simp [unrows]

theorem newline_notMem_intercalate {b : α} (hb : newline b = false) {row : List (List α)}
    (h : ∀ field ∈ row, IsField newline blank field) :
    ∀ a ∈ [b].intercalate row, newline a = false := by
  induction row with
  | nil => simp
  | cons field rest ih =>
    intro a ha
    have hr := ih (fun w hw => h w (List.mem_cons_of_mem _ hw))
    cases rest with
    | nil =>
      rw [List.intercalate_singleton] at ha
      exact ((h field List.mem_cons_self).2 a ha).2
    | cons next rest =>
      rw [List.intercalate_cons_cons, List.mem_append, List.mem_append,
        List.mem_singleton] at ha
      rcases ha with (ha | rfl) | ha
      · exact ((h field List.mem_cons_self).2 a ha).2
      · exact hb
      · exact hr a ha

/-- Writing a table and reading it back loses only its empty rows. -/
theorem rows_unrows {n b : α} (hn : newline n = true) (hb : blank b = true)
    (hbn : newline b = false) (table : List (List (List α)))
    (h : ∀ row ∈ table, ∀ field ∈ row, IsField newline blank field) :
    rows newline blank (unrows n b table) = table.filter (fun row => !row.isEmpty) := by
  induction table with
  | nil => simp
  | cons row table ih =>
    have hrow := h row List.mem_cons_self
    have hline := newline_notMem_intercalate hbn hrow
    rw [unrows_cons, rows_append_cons newline blank _ _ hn, rows_line hline,
      fields_intercalate hb row hrow, ih (fun r hr => h r (List.mem_cons_of_mem _ hr)),
      ← List.filter_append, List.singleton_append]

end MigrateImageRepository.Rows
