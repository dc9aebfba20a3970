import MigrateImageRepository.Migration

/-! Reading the entries back from the emitted script.
The decoder takes four commands at a time and accepts nothing but blocks. The
generator never looks at the names it pastes into the text, so an entry without a
source or a target loses a word of its commands. -/

namespace MigrateImageRepository.Decoding
open CopyBlocks Generator Script Migration

def copyOfTag (tag : List String) : Copy String := ⟨tag.getD 2 "", tag.getD 3 ""⟩

def decode : List (List String) → Option (List (Copy String))
  | [] => some []
  | pull :: tag :: push :: rmi :: rest =>
    if [pull, tag, push, rmi] = blockCommands (copyOfTag tag) then
      (decode rest).map (copyOfTag tag :: ·)
    else none
  | _ => none

theorem decode_block_append (c : Copy String) (rest : List (List String)) :
    decode (blockCommands c ++ rest) = (decode rest).map (c :: ·) :=
  if_pos rfl

theorem decode_flatMap (cs : List (Copy String)) :
    decode (cs.flatMap blockCommands) = some cs := by
  induction cs with
  | nil => rfl
  | cons c cs ih => rw [List.flatMap_cons, decode_block_append, ih, Option.map_some]

theorem decode_eq_some_iff {rows : List (List String)} {cs : List (Copy String)} :
    decode rows = some cs ↔ rows = cs.flatMap blockCommands := by
  refine ⟨fun h => ?_, fun h => h ▸ decode_flatMap cs⟩
  induction rows using decode.induct generalizing cs with
  | case1 =>
    obtain rfl := Option.some.inj h
    rfl
  | case2 pull tag push rmi rest hblock ih =>
    rw [decode, if_pos hblock, Option.map_eq_some_iff] at h
    obtain ⟨ds, hds, rfl⟩ := h
    rw [List.flatMap_cons, ← ih hds, ← hblock]
    rfl
  | case3 pull tag push rmi rest hblock =>
    rw [decode, if_neg hblock] at h
    cases h
  | case4 rows hnil hfour =>
    rw [decode] at h
    · cases h
    · exact hnil
    · exact hfour

/-- The script is the header and then the commands of `cs`, which it gives back. -/
def DecodesTo (text : String) (cs : List (Copy String)) : Prop :=
  ∃ body, text = shHeader ++ body ∧ commands body = cs.flatMap blockCommands ∧
    decode (commands body) = some cs

def RefusedOrDecodes (result : Except Stop String) (cs : List (Copy String)) : Prop :=
  match result with
  | .error _ => True
  | .ok text => DecodesTo text cs

def refChar (ch : Char) : Bool := ch.isAlphanum || ch ∈ ['.', '_', '-', '/', ':', '@']

def RefName (w : String) : Prop := ∀ ch ∈ w.toList, refChar ch = true

instance (w : String) : Decidable (RefName w) :=
  decidable_of_iff (w.toList.all refChar = true) List.all_eq_true

theorem RefName.isWord {w : String} (h : RefName w) (hne : w ≠ "") : IsWord w := by
  refine ⟨by simpa using hne, ?_⟩
  intro ch hch
  have hspace : ch ≠ ' ' := fun hc => by simpa [hc, refChar] using h ch hch
  have htab : ch ≠ '\t' := fun hc => by simpa [hc, refChar] using h ch hch
  have hline : ch ≠ '\n' := fun hc => by simpa [hc, refChar] using h ch hch
  simp [isBlank, isNewline, hspace, htab, hline]

def RefNames (files : List Mapping) : Prop :=
  ∀ c ∈ copies files, RefName c.source ∧ RefName c.target

def Filled (files : List Mapping) : Prop :=
  ∀ c ∈ copies files, c.source ≠ "" ∧ c.target ≠ ""

section Script

variable (ord : RangeOrder) (files : List Mapping)

theorem decodesTo_of_filled (refs : RefNames files) (filled : Filled files) :
    DecodesTo (shScript ord files) (emittedCopies ord files) := by
  have hwords : ∀ c ∈ copies files, IsWord c.source ∧ IsWord c.target := by
    intro c hc
    exact ⟨(refs c hc).1.isWord (filled c hc).1, (refs c hc).2.isWord (filled c hc).2⟩
  have hcommands := commands_blocks _ (isWord_emitted hwords ord)
  refine ⟨blocks (emitted ord 0 files), shScript_eq ord files, hcommands, ?_⟩
  exact decode_eq_some_iff.mpr hcommands

theorem filled_of_decodesTo {text : String}
    (h : DecodesTo text (emittedCopies ord files)) : Filled files := by
  obtain ⟨body, -, hcommands, -⟩ := h
  intro c hc
  have hmem : ["buildah", "tag", c.source, c.target] ∈ commands body := by
    rw [hcommands]
    refine List.mem_flatMap.mpr ⟨c, (mem_emittedCopies ord files c).mpr hc, ?_⟩
    simp [blockCommands]
  exact ⟨ne_empty_of_mem_commands hmem (by simp), ne_empty_of_mem_commands hmem (by simp)⟩

variable (unmarshal : ByteArray → Except String Mapping)
  (readFile : Path → Except String ByteArray) (paths : List Path)

/-- A list of mapping files is refused or decodes back exactly when no entry lacks a
name: nothing is refused once the files are decoded. -/
theorem refusedOrDecodes_iff_filled
    (decoded : paths.map (readMapping unmarshal readFile) = files.map .ok)
    (refs : RefNames files) :
    RefusedOrDecodes (readAndEmit unmarshal readFile ord 0 paths shHeader)
      (emittedCopies ord files) ↔ Filled files := by
  rw [readAndEmit_of_decoded unmarshal readFile ord decoded]
  exact ⟨filled_of_decodesTo ord files, decodesTo_of_filled ord files refs⟩

end Script

theorem refNames_middlewareFile : RefNames [middlewareFile] := by
  have hcopies : copies [middlewareFile] = [copyOf busybox] := rfl
  have hbusybox : RefName (copyOf busybox).source ∧ RefName (copyOf busybox).target := by
    decide +kernel
  intro c hc
  rw [hcopies, List.mem_singleton] at hc
  rw [hc]
  exact hbusybox

theorem refusedOrDecodes_iff_filled_busybox :
    RefusedOrDecodes
        (readAndEmit (decodeOnly middlewareYaml middlewareFile)
          (fun _ => .ok middlewareYaml.toUTF8) asListed 0
          [rootParent ++ [rootName, "middleware-research", mappingName]] shHeader)
        (emittedCopies asListed [middlewareFile]) ↔
      Filled [middlewareFile] := by
  refine refusedOrDecodes_iff_filled asListed [middlewareFile] _ _ _ ?_
    refNames_middlewareFile
  rw [List.map_singleton, readMapping_decodeOnly _ _ _ rfl, List.map_singleton]

/-- The entry that heads the mapping files as a comment, its source still blank. -/
def template : ImageEntry :=
  ⟨[⟨"s", ""⟩, ⟨"t", "registry.cn-shanghai.aliyuncs.com/shilintan-public/"⟩],
    by simp [List.NodupKeys, List.keys]⟩

def templateFile : Mapping :=
  AList.singleton "monitor" (AList.singleton "prometheus" [template])

def templateYaml : String :=
  "monitor:\n" ++
  "  prometheus:\n" ++
  "    - s:\n" ++
  "      t: registry.cn-shanghai.aliyuncs.com/shilintan-public/\n"

/-- A blank source is neither refused nor recovered. -/
theorem template_lost :
    RefNames [templateFile] ∧
      ¬ RefusedOrDecodes
        (readAndEmit (decodeOnly templateYaml templateFile)
          (fun _ => .ok templateYaml.toUTF8) asListed 0
          [rootParent ++ [rootName, "monitor-research", mappingName]] shHeader)
        (emittedCopies asListed [templateFile]) := by
  have hcopies : copies [templateFile] = [copyOf template] := rfl
  have hrefs : RefName (copyOf template).source ∧ RefName (copyOf template).target := by
    decide +kernel
  refine ⟨?_, ?_⟩
  · intro c hc
    rw [hcopies, List.mem_singleton] at hc
    rw [hc]
    exact hrefs
  · have hread : [rootParent ++ [rootName, "monitor-research", mappingName]].map
        (readMapping (decodeOnly templateYaml templateFile)
          (fun _ => .ok templateYaml.toUTF8)) = [templateFile].map .ok := by
      rw [List.map_singleton, readMapping_decodeOnly _ _ _ rfl, List.map_singleton]
    rw [readAndEmit_of_decoded _ _ _ hread]
    intro hdecodes
    have hfilled := filled_of_decodesTo asListed [templateFile] hdecodes
    exact (hfilled (copyOf template) (by rw [hcopies]; exact List.mem_singleton_self _)).1 rfl

end MigrateImageRepository.Decoding
