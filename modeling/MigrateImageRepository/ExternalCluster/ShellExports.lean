import MigrateImageRepository.Script
import MigrateImageRepository.ExternalCluster.ClusterImport
import MigrateImageRepository.ExternalCluster.Export

/-! What a shell makes of the bash output of an export.
The output has one `export` line for every value that is set, without quotes. A shell that
reads it has these values in its variables, as long as none of them has a character with a
meaning for the shell. -/

namespace MigrateImageRepository.ExternalCluster.ShellExports
open ClusterImport Export Script

def isNameChar (ch : Char) : Bool := ch.isAlphanum || ch == '_'

/-- A character that has no meaning for the shell in a value. -/
def isPlainChar (ch : Char) : Bool :=
  ch.isAlphanum || ['@', '%', '+', '=', ':', ',', '.', '/', '-', '_'].contains ch

def readAssignment (word : String) : Option (String × String) :=
  let name := word.toList.takeWhile (· != '=')
  match word.toList.dropWhile (· != '=') with
  | [] => none
  | _ :: value =>
    if name ≠ [] ∧ name.all isNameChar ∧ value.all isPlainChar then
      some (String.ofList name, String.ofList value)
    else none

/-- One command, when it is an `export` of a plain value. -/
def readExport : List String → Option (String × String)
  | [command, word] => if command = "export" then readAssignment word else none
  | _ => none

/-- The assignments of a text, unless there is more in it than `export` commands. -/
def readExports (text : String) : Option (List (String × String)) :=
  (commands text).mapM readExport

def assigned (env : Env) (vars : List (String × String)) : Env :=
  vars.foldl (fun env var => Function.update env var.1 var.2) env

def exported (out : OutMap) : List (String × String) :=
  (out.filter (fun entry => entry.2.truthy && entry.1 ∉ excludedKeys)).map
    (fun entry => (entry.1, entry.2.str))

structure PlainVar (var : String × String) : Prop where
  name_ne : var.1 ≠ ""
  name : ∀ ch ∈ var.1.toList, isNameChar ch = true
  value : ∀ ch ∈ var.2.toList, isPlainChar ch = true

theorem isNameChar_ne {ch : Char} (h : isNameChar ch = true) : ch ≠ '=' := by
  rintro rfl
  exact absurd h (by decide)

theorem readAssignment_of_plain {var : String × String} (h : PlainVar var) :
    readAssignment (var.1 ++ "=" ++ var.2) = some var := by
  have heq : "=".toList = ['='] := by decide +kernel
  have hname : ∀ ch ∈ var.1.toList, (ch != '=') = true := by
    intro ch hch
    simpa using isNameChar_ne (h.name ch hch)
  have htext : (var.1 ++ "=" ++ var.2).toList = var.1.toList ++ '=' :: var.2.toList := by
    simp [heq]
  have htake : (var.1.toList ++ '=' :: var.2.toList).takeWhile (· != '=') = var.1.toList := by
    rw [List.takeWhile_append_of_pos hname]
    simp
  have hdrop : (var.1.toList ++ '=' :: var.2.toList).dropWhile (· != '=') =
      '=' :: var.2.toList := by
    rw [List.dropWhile_append_of_pos hname]
    simp
  have hne : var.1.toList ≠ [] := fun hnil => h.name_ne (String.toList_eq_nil_iff.mp hnil)
  rw [readAssignment, htext, htake, hdrop]
  dsimp only
  rw [if_pos ⟨hne, List.all_eq_true.mpr h.name, List.all_eq_true.mpr h.value⟩]
  simp

theorem isPlainChar_of_name {ch : Char} (h : isNameChar ch = true) : isPlainChar ch = true := by
  rw [isNameChar, Bool.or_eq_true] at h
  rw [isPlainChar, Bool.or_eq_true]
  refine h.imp id (fun hunderscore => ?_)
  rw [beq_iff_eq] at hunderscore
  rw [hunderscore]
  decide

theorem isPlainChar_word {ch : Char} (h : isPlainChar ch = true) :
    isBlank ch = false ∧ isNewline ch = false := by
  simp only [isBlank, isNewline, Bool.or_eq_false_iff, decide_eq_false_iff_not]
  refine ⟨⟨?_, ?_⟩, ?_⟩ <;> rintro rfl <;> exact absurd h (by decide)

theorem isWord_assignment {var : String × String} (h : PlainVar var) :
    IsWord (var.1 ++ "=" ++ var.2) := by
  have heq : "=".toList = ['='] := by decide +kernel
  have htext : (var.1 ++ "=" ++ var.2).toList = var.1.toList ++ '=' :: var.2.toList := by
    simp [heq]
  rw [IsWord, Rows.IsField, htext]
  refine ⟨by simp, fun ch hch => isPlainChar_word ?_⟩
  rcases List.mem_append.mp hch with hname | hvalue
  · exact isPlainChar_of_name (h.name ch hname)
  · rcases List.mem_cons.mp hvalue with rfl | hvalue
    · decide
    · exact h.value ch hvalue

def exportLine (var : String × String) : String := "export " ++ var.1 ++ "=" ++ var.2 ++ "\n"

def exportWords (var : String × String) : List String := ["export", var.1 ++ "=" ++ var.2]

theorem shellText_eq (out : OutMap) :
    shellText out = String.join ((exported out).map exportLine) := by
  rw [shellText, exported, List.map_map]
  rfl

theorem toList_exportLine (var : String × String) : (exportLine var).toList =
    [' '].intercalate ((exportWords var).map String.toList) ++ ['\n'] := by
  have hblank : "export ".toList = "export".toList ++ [' '] := by decide +kernel
  have hend : "\n".toList = ['\n'] := by decide +kernel
  unfold exportLine
  simp [exportWords, List.intercalate_cons_cons, hblank, hend]

theorem toList_exportLines (vars : List (String × String)) :
    (String.join (vars.map exportLine)).toList =
      Rows.unrows '\n' ' ' (vars.map (fun var => (exportWords var).map String.toList)) := by
  rw [String.toList_join, List.flatMap_map, Rows.unrows, List.flatMap_map]
  exact List.flatMap_congr (fun var _ => toList_exportLine var)

theorem commands_exportLines {vars : List (String × String)} (h : ∀ var ∈ vars, PlainVar var) :
    commands (String.join (vars.map exportLine)) = vars.map exportWords := by
  have hexport : IsWord "export" := ⟨by decide, by simp [isBlank, isNewline]⟩
  have hwords : ∀ row ∈ vars.map (fun var => (exportWords var).map String.toList), ∀ word ∈ row,
      Rows.IsField isNewline isBlank word := by
    intro row hrow word hword
    obtain ⟨var, hvar, rfl⟩ := List.mem_map.mp hrow
    simp only [exportWords, List.map_cons, List.map_nil, List.mem_cons, List.not_mem_nil,
      or_false] at hword
    rcases hword with rfl | rfl
    · exact hexport
    · exact isWord_assignment (h var hvar)
  rw [commands, toList_exportLines, Rows.rows_unrows rfl rfl rfl _ hwords, List.filter_eq_self.mpr]
  · simp [Function.comp_def]
  · intro row hrow
    obtain ⟨var, -, rfl⟩ := List.mem_map.mp hrow
    rfl

/-- A shell reads the output back as the assignments that were written. -/
theorem readExports_shellText {out : OutMap} (h : ∀ var ∈ exported out, PlainVar var) :
    readExports (shellText out) = some (exported out) := by
  rw [readExports, shellText_eq, commands_exportLines h]
  generalize exported out = vars at h
  induction vars with
  | nil => rfl
  | cons var vars ih =>
    rw [List.forall_mem_cons] at h
    have hread : readExport (exportWords var) = some var := by
      rw [exportWords, readExport, if_pos rfl, readAssignment_of_plain h.1]
    rw [List.map_cons, List.mapM_cons, hread, ih h.2]
    rfl

def unset : Env := fun _ => ""

def envAfter (out : OutMap) : Env := assigned unset (exported out)

theorem lookup_eq_none {α : Type} {entries : List (String × α)} {key : String}
    (h : key ∉ entries.map Prod.fst) : entries.lookup key = none := by
  rw [List.lookup_eq_none_iff]
  intro entry hentry
  have hne : key ≠ entry.1 := by
    rintro rfl
    exact h (List.mem_map_of_mem hentry)
  simpa using hne

theorem assigned_eq {vars : List (String × String)} (h : (vars.map Prod.fst).Nodup) (env : Env)
    (key : String) : assigned env vars key = (vars.lookup key).getD (env key) := by
  induction vars generalizing env with
  | nil => rfl
  | cons var vars ih =>
    rw [List.map_cons, List.nodup_cons] at h
    rw [assigned, List.foldl_cons, List.lookup_cons, ← assigned, ih h.2]
    by_cases hkey : key = var.1
    · rw [lookup_eq_none (hkey ▸ h.1), hkey]
      simp
    · rw [beq_false_of_ne hkey, Function.update_of_ne hkey]

def setText (value : Value) : Option String := if value.truthy then some value.str else none

theorem lookup_exported {out : OutMap} (h : (out.map Prod.fst).Nodup) {key : String}
    (hkey : key ∉ excludedKeys) : (exported out).lookup key = (out.lookup key).bind setText := by
  induction out with
  | nil => rfl
  | cons entry out ih =>
    rw [List.map_cons, List.nodup_cons] at h
    have hrest := ih h.2
    rw [exported] at hrest ⊢
    rw [List.filter_cons, List.lookup_cons]
    by_cases hentry : key = entry.1
    · rw [hentry] at hkey hrest ⊢
      rw [lookup_eq_none h.1] at hrest
      rw [beq_self_eq_true, Option.bind_some, setText]
      cases htruthy : entry.2.truthy with
      | true => simp [hkey]
      | false => simpa using hrest
    · rw [beq_false_of_ne hentry, ← hrest]
      split
      · rw [List.map_cons, List.lookup_cons, beq_false_of_ne hentry]
      · rfl

theorem envAfter_eq {out : OutMap} (h : (out.map Prod.fst).Nodup) {key : String}
    (hkey : key ∉ excludedKeys) :
    envAfter out key = ((out.lookup key).bind setText).getD "" := by
  have hnodup : ((exported out).map Prod.fst).Nodup := by
    refine h.sublist ?_
    rw [exported, List.map_map]
    exact List.filter_sublist.map Prod.fst
  rw [envAfter, assigned_eq hnodup, lookup_exported h hkey, unset]

theorem envAfter_of_text {out : OutMap} (h : (out.map Prod.fst).Nodup) {key text : String}
    (hkey : key ∉ excludedKeys) (htext : getOut out key = .ok (.text text)) :
    envAfter out key = text := by
  have hlookup : out.lookup key = some (.text text) := by
    rw [getOut] at htext
    split at htext
    · cases htext
      assumption
    · cases htext
  rw [envAfter_eq h hkey, hlookup, Option.bind_some, setText]
  by_cases hempty : text = ""
  · simp [hempty, Value.truthy]
  · simp [hempty, Value.truthy, Value.str]

theorem envAfter_of_none {out : OutMap} (h : (out.map Prod.fst).Nodup) {key : String}
    (hkey : key ∉ excludedKeys) (hnone : key ∉ out.map Prod.fst) : envAfter out key = "" := by
  rw [envAfter_eq h hkey, lookup_eq_none hnone]
  rfl

end MigrateImageRepository.ExternalCluster.ShellExports
