import Mathlib.Data.List.Perm.Basic
import MigrateImageRepository.CopyBlocks
import MigrateImageRepository.Generator
import MigrateImageRepository.Rows

/-! The emitted text as a sequence of commands.
Emission appends one block of text per entry, in an order that permutes the
entries of the mapping files. Read as a shell reads it, in lines and words, the
text is exactly the four commands of every entry, provided its names are words. -/

namespace MigrateImageRepository.Script
open CopyBlocks Generator

def imageEntries (m : Mapping) : List ImageEntry :=
  m.entries.flatMap fun vR => vR.2.entries.flatMap Sigma.snd

def ranged (ord : RangeOrder) (i : ℕ) (m : Mapping) : List ImageEntry :=
  (ord.projects i m).order.flatMap fun vR =>
    (ord.groups i vR.1 vR.2).order.flatMap Sigma.snd

def emitted (ord : RangeOrder) : ℕ → List Mapping → List ImageEntry
  | _, [] => []
  | i, m :: files => ranged ord i m ++ emitted ord (i + 1) files

theorem ranged_perm (ord : RangeOrder) (i : ℕ) (m : Mapping) :
    (ranged ord i m).Perm (imageEntries m) := by
  apply List.Perm.flatMap (ord.projects i m).perm
  intro vR _
  exact (ord.groups i vR.1 vR.2).perm.flatMap_right _

theorem emitted_perm (ord : RangeOrder) (i : ℕ) (files : List Mapping) :
    (emitted ord i files).Perm (files.flatMap imageEntries) := by
  induction files generalizing i with
  | nil => exact List.Perm.refl _
  | cons m files ih =>
    rw [emitted, List.flatMap_cons]
    exact (ranged_perm ord i m).append (ih (i + 1))

/-- The copy an entry asks for; a name that it lacks is empty. -/
def copyOf (iF : ImageEntry) : Copy String where
  source := (iF.lookup "s").getD ""
  target := (iF.lookup "t").getD ""

def block (iF : ImageEntry) : String :=
  let c := copyOf iF
  "buildah pull " ++ c.source ++ "\n" ++
  "buildah tag " ++ c.source ++ " " ++ c.target ++ "\n" ++
  "buildah push " ++ c.target ++ "\n" ++
  "buildah rmi " ++ c.source ++ " " ++ c.target ++ "\n" ++
  "\n"

def blocks : List ImageEntry → String
  | [] => ""
  | iF :: rest => block iF ++ blocks rest

theorem blocks_append (es fs : List ImageEntry) :
    blocks (es ++ fs) = blocks es ++ blocks fs := by
  induction es with
  | nil => simp [blocks]
  | cons iF es ih => simp only [List.cons_append, blocks, ih, String.append_assoc]

theorem emitEntry_eq (shResult : String) (iF : ImageEntry) :
    emitEntry shResult iF = shResult ++ block iF := by
  unfold emitEntry block copyOf index
  simp only [String.append_assoc]

theorem foldl_emitEntry (es : List ImageEntry) (shResult : String) :
    es.foldl emitEntry shResult = shResult ++ blocks es := by
  induction es generalizing shResult with
  | nil => simp [blocks]
  | cons iF es ih =>
    rw [List.foldl_cons, ih, emitEntry_eq, blocks, String.append_assoc]

theorem foldl_emit {α : Type} (body : String → α → String) (entries : α → List ImageEntry)
    (h : ∀ shResult a, body shResult a = shResult ++ blocks (entries a)) (xs : List α)
    (shResult : String) : xs.foldl body shResult = shResult ++ blocks (xs.flatMap entries) := by
  induction xs generalizing shResult with
  | nil => simp [blocks]
  | cons a xs ih =>
    rw [List.foldl_cons, ih, h, List.flatMap_cons, blocks_append, String.append_assoc]

theorem foldl_groups (order : List (Sigma fun _ : String => List ImageEntry))
    (shResult : String) :
    order.foldl (fun shResult vF => vF.2.foldl emitEntry shResult) shResult =
      shResult ++ blocks (order.flatMap Sigma.snd) :=
  foldl_emit (fun shResult vF => vF.2.foldl emitEntry shResult) Sigma.snd
    (fun sh vF => foldl_emitEntry vF.2 sh) order shResult

theorem emitFile_eq (ord : RangeOrder) (i : ℕ) (m : Mapping) (shResult : String) :
    emitFile ord i m shResult = shResult ++ blocks (ranged ord i m) := by
  rw [emitFile, ranged]
  apply foldl_emit
  intro shResult vR
  exact foldl_groups (ord.groups i vR.1 vR.2).order shResult

theorem emitFiles_eq (ord : RangeOrder) (i : ℕ) (files : List Mapping) (shResult : String) :
    emitFiles ord i files shResult = shResult ++ blocks (emitted ord i files) := by
  induction files generalizing i shResult with
  | nil => simp [emitFiles, emitted, blocks]
  | cons m files ih =>
    rw [emitFiles, ih, emitFile_eq, emitted, blocks_append, String.append_assoc]

theorem shScript_eq (ord : RangeOrder) (files : List Mapping) :
    shScript ord files = shHeader ++ blocks (emitted ord 0 files) :=
  emitFiles_eq ord 0 files shHeader

section Reading

variable (unmarshal : ByteArray → Except String Mapping)
  (readFile : Path → Except String ByteArray)

theorem readAndEmit_eq_ok_iff (ord : RangeOrder) (i : ℕ) (paths : List Path)
    (shResult text : String) :
    readAndEmit unmarshal readFile ord i paths shResult = .ok text ↔
      ∃ files, paths.map (readMapping unmarshal readFile) = files.map .ok ∧
        text = emitFiles ord i files shResult := by
  induction paths generalizing i shResult with
  | nil => simp [readAndEmit, emitFiles, eq_comm]
  | cons p paths ih =>
    rw [readAndEmit]
    cases hp : readMapping unmarshal readFile p with
    | error stop =>
      refine ⟨?_, ?_⟩
      · intro h
        cases h
      · rintro ⟨files, hfiles, -⟩
        cases files <;> simp [hp] at hfiles
    | ok m =>
      simp only [ih, List.map_cons, hp]
      refine ⟨?_, ?_⟩
      · rintro ⟨files, hfiles, rfl⟩
        exact ⟨m :: files, by rw [hfiles, List.map_cons], rfl⟩
      · rintro ⟨files, hfiles, htext⟩
        cases files with
        | nil => simp at hfiles
        | cons m' files =>
          rw [List.map_cons, List.cons.injEq, Except.ok.injEq] at hfiles
          exact ⟨files, hfiles.2, by rw [htext, ← hfiles.1, emitFiles]⟩

theorem readAndEmit_of_decoded (ord : RangeOrder) {paths : List Path} {files : List Mapping}
    (decoded : paths.map (readMapping unmarshal readFile) = files.map .ok) :
    readAndEmit unmarshal readFile ord 0 paths shHeader = .ok (shScript ord files) :=
  (readAndEmit_eq_ok_iff unmarshal readFile ord 0 paths shHeader _).mpr ⟨files, decoded, rfl⟩

end Reading

def isNewline (c : Char) : Bool := c = '\n'

def isBlank (c : Char) : Bool := c = ' ' || c = '\t'

/-- The script as the shell's lines and words; empty lines give no command. -/
def commands (text : String) : List (List String) :=
  (Rows.rows isNewline isBlank text.toList).map (List.map String.ofList)

theorem commands_line_append (line rest : String) :
    commands (line ++ "\n" ++ rest) = commands (line ++ "\n") ++ commands rest := by
  have hn : isNewline '\n' = true := rfl
  have hlist : (line ++ "\n").toList = line.toList ++ ['\n'] := by simp [String.toList_append]
  have hline : Rows.rows isNewline isBlank (line ++ "\n").toList =
      Rows.rows isNewline isBlank line.toList := by
    rw [hlist, Rows.rows_append_cons isNewline isBlank _ [] hn, Rows.rows_nil, List.append_nil]
  rw [commands, String.toList_append, hlist, List.append_assoc, List.singleton_append,
    Rows.rows_append_cons isNewline isBlank _ _ hn, List.map_append, commands, hline, commands]

theorem commands_shHeader_append (rest : String) :
    commands (shHeader ++ rest) = commands shHeader ++ commands rest :=
  commands_line_append _ rest

theorem ne_empty_of_mem_commands {text : String} {ws : List String} {w : String}
    (hws : ws ∈ commands text) (hw : w ∈ ws) : w ≠ "" := by
  obtain ⟨row, hrow, rfl⟩ := List.mem_map.mp hws
  obtain ⟨field, hfield, rfl⟩ := List.mem_map.mp hw
  have hne := Rows.ne_nil_of_mem_rows isNewline isBlank hrow hfield
  rwa [ne_eq, String.ofList_eq_empty_iff]

def blockCommands (c : Copy String) : List (List String) :=
  [["buildah", "pull", c.source], ["buildah", "tag", c.source, c.target],
    ["buildah", "push", c.target], ["buildah", "rmi", c.source, c.target]]

def IsWord (w : String) : Prop := Rows.IsField isNewline isBlank w.toList

def blockRows (c : Copy String) : List (List (List Char)) :=
  (blockCommands c).map (List.map String.toList) ++ [[]]

theorem toList_block (iF : ImageEntry) :
    (block iF).toList = Rows.unrows '\n' ' ' (blockRows (copyOf iF)) := by
  unfold block
  simp [blockRows, blockCommands, Rows.unrows, String.toList_append,
    List.intercalate_cons_cons]

theorem toList_blocks (es : List ImageEntry) :
    (blocks es).toList =
      Rows.unrows '\n' ' ' (es.flatMap (fun iF => blockRows (copyOf iF))) := by
  induction es with
  | nil => rfl
  | cons iF es ih =>
    rw [blocks, String.toList_append, toList_block, ih, List.flatMap_cons, Rows.unrows_append]

def keywords : List String := ["buildah", "pull", "tag", "push", "rmi"]

theorem isWord_of_mem_keywords {w : String} (h : w ∈ keywords) : IsWord w := by
  simp only [keywords, List.mem_cons, List.not_mem_nil, or_false] at h
  rcases h with rfl | rfl | rfl | rfl | rfl <;> exact ⟨by decide, by simp [isBlank, isNewline]⟩

theorem eq_or_of_mem_blockCommands {c : Copy String} {ws : List String} {w : String}
    (hws : ws ∈ blockCommands c) (hw : w ∈ ws) :
    w ∈ keywords ∨ w = c.source ∨ w = c.target := by
  simp only [blockCommands, List.mem_cons, List.not_mem_nil, or_false] at hws
  rcases hws with rfl | rfl | rfl | rfl <;>
    simp only [keywords, List.mem_cons, List.not_mem_nil, or_false] at hw ⊢ <;> tauto

theorem isField_of_mem_blockRows {c : Copy String} (hs : IsWord c.source)
    (ht : IsWord c.target) {row : List (List Char)} (hrow : row ∈ blockRows c)
    {field : List Char} (hf : field ∈ row) : Rows.IsField isNewline isBlank field := by
  rcases List.mem_append.mp hrow with hrow | hrow
  · obtain ⟨ws, hws, rfl⟩ := List.mem_map.mp hrow
    obtain ⟨w, hw, rfl⟩ := List.mem_map.mp hf
    rcases eq_or_of_mem_blockCommands hws hw with hkey | rfl | rfl
    · exact isWord_of_mem_keywords hkey
    · exact hs
    · exact ht
  · rw [List.mem_singleton.mp hrow] at hf
    exact absurd hf List.not_mem_nil

theorem filter_blockRows (c : Copy String) :
    ((blockRows c).filter (fun row => !row.isEmpty)).map (List.map String.ofList) =
      blockCommands c := by
  simp [blockRows, blockCommands]

/-- Reading the emitted text back gives the four commands of each entry, in order. -/
theorem commands_blocks (es : List ImageEntry)
    (h : ∀ iF ∈ es, IsWord (copyOf iF).source ∧ IsWord (copyOf iF).target) :
    commands (blocks es) = (es.map copyOf).flatMap blockCommands := by
  have hrows : ∀ row ∈ es.flatMap (fun iF => blockRows (copyOf iF)), ∀ field ∈ row,
      Rows.IsField isNewline isBlank field := by
    intro row hrow field hf
    obtain ⟨iF, hiF, hrow⟩ := List.mem_flatMap.mp hrow
    exact isField_of_mem_blockRows (h iF hiF).1 (h iF hiF).2 hrow hf
  rw [commands, toList_blocks, Rows.rows_unrows rfl rfl rfl _ hrows, List.filter_flatMap,
    List.map_flatMap, List.flatMap_map]
  exact List.flatMap_congr (fun iF _ => filter_blockRows (copyOf iF))

end MigrateImageRepository.Script
