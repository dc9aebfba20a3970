import MigrateImageRepository.Buildah
import MigrateImageRepository.Generation

/-! What a run of the emitted script achieves when no command fails: the images
are migrated, and the order of Go's ranges does not show in the result. Together
with a complete run of the generator this covers every image of the tree. -/

namespace MigrateImageRepository.Migration
open CopyBlocks Generator Generation Script Buildah

variable {C : Type}

def copies (files : List Mapping) : List (Copy String) :=
  (files.flatMap imageEntries).map copyOf

def emittedCopies (ord : RangeOrder) (files : List Mapping) : List (Copy String) :=
  (emitted ord 0 files).map copyOf

theorem emittedCopies_perm (ord : RangeOrder) (files : List Mapping) :
    (emittedCopies ord files).Perm (copies files) :=
  (emitted_perm ord 0 files).map copyOf

theorem mem_emittedCopies (ord : RangeOrder) (files : List Mapping) (c : Copy String) :
    c ∈ emittedCopies ord files ↔ c ∈ copies files :=
  (emittedCopies_perm ord files).mem_iff

theorem isWord_emitted {files : List Mapping}
    (h : ∀ c ∈ copies files, IsWord c.source ∧ IsWord c.target) (ord : RangeOrder) :
    ∀ iF ∈ emitted ord 0 files, IsWord (copyOf iF).source ∧ IsWord (copyOf iF).target := by
  intro iF hiF
  exact h _ ((mem_emittedCopies ord files _).mp (List.mem_map_of_mem hiF))

/-- The characters a shell reads specially in a word, blanks apart. -/
def shellMeta : List Char := "\n|&;<>()$`\\\"'*?[#~=%\x7b\x7d".toList

def PlainWord (w : String) : Prop :=
  w ≠ "" ∧ ∀ ch ∈ w.toList, isBlank ch = false ∧ ch ∉ shellMeta

instance (w : String) : Decidable (PlainWord w) :=
  decidable_of_iff
    (w ≠ "" ∧ w.toList.all (fun ch => isBlank ch = false ∧ ch ∉ shellMeta) = true)
    (by simp only [PlainWord, List.all_eq_true, decide_eq_true_eq])

theorem PlainWord.isWord {w : String} (h : PlainWord w) : IsWord w := by
  refine ⟨by simpa using h.1, ?_⟩
  intro ch hch
  refine ⟨(h.2 ch hch).1, ?_⟩
  have hmeta := (h.2 ch hch).2
  have hne : ch ≠ '\n' := fun hn => hmeta (by rw [hn]; decide)
  simpa [isNewline] using hne

def PlainNames (files : List Mapping) : Prop :=
  ∀ c ∈ copies files, PlainWord c.source ∧ PlainWord c.target

instance (files : List Mapping) : Decidable (PlainNames files) :=
  inferInstanceAs (Decidable (∀ c ∈ copies files, _))

theorem PlainNames.isWord {files : List Mapping} (h : PlainNames files) (ord : RangeOrder) :
    ∀ iF ∈ emitted ord 0 files, IsWord (copyOf iF).source ∧ IsWord (copyOf iF).target :=
  isWord_emitted (fun c hc => ⟨(h c hc).1.isWord, (h c hc).2.isWord⟩) ord

def noFailure : ℕ → Bool := fun _ => false

theorem fails_of_mem_blocksFrom {i : ℕ} {cs : List (Copy String)} {b : Block String}
    (h : b ∈ blocksFrom noFailure i cs) :
    (b.pullFails = false ∧ b.pushFails = false) ∧ b.toCopy ∈ cs := by
  induction cs generalizing i with
  | nil => exact absurd h List.not_mem_nil
  | cons c cs ih =>
    rcases List.mem_cons.mp h with rfl | h
    · exact ⟨⟨rfl, rfl⟩, List.mem_cons_self⟩
    · exact ⟨(ih h).1, List.mem_cons_of_mem _ (ih h).2⟩

theorem runScript_migrated {host : Host C} (laws : BuildahLaws host) (files : List Mapping)
    (σ : Images String C) (plain : PlainNames files)
    (found : ∀ c ∈ copies files, (σ.published c.source).isSome)
    (consistent : Consistent (copies files)) (ord : RangeOrder) :
    Migrated (copies files) σ (runScript host noFailure (shScript ord files) σ).1 := by
  obtain ⟨oks, hruns, -⟩ := runScript_runs laws noFailure ord files σ (plain.isWord ord)
  have hcs := consistent.of_mem (mem_emittedCopies ord files)
  have hmig := hruns.migrated (by rwa [map_blocksFrom])
    (fun b hb => (fails_of_mem_blocksFrom hb).1)
    (fun b hb => found _ ((mem_emittedCopies ord files _).mp (fails_of_mem_blocksFrom hb).2))
  rw [map_blocksFrom] at hmig
  exact hmig.of_mem (fun c => (mem_emittedCopies ord files c).symm)

/-- The script migrates the images of the mapping files, and it ends in the same state
for every order in which the maps are ranged over. -/
theorem script_migrates {host : Host C} (laws : BuildahLaws host) (files : List Mapping)
    (σ : Images String C) (plain : PlainNames files)
    (found : ∀ c ∈ copies files, (σ.published c.source).isSome)
    (consistent : Consistent (copies files)) :
    ∃ final, Migrated (copies files) σ final ∧
      ∀ ord, (runScript host noFailure (shScript ord files) σ).1 = final := by
  have hall := runScript_migrated laws files σ plain found consistent
  exact ⟨_, hall asListed, fun ord => (hall ord).unique (hall asListed)⟩

def staleImages : Images String ℕ where
  held n := if n = "busybox:1.36" then some 0 else none
  published n := if n = "busybox:1.36" then some 1 else none

theorem plainWord_busybox :
    PlainWord (copyOf busybox).source ∧ PlainWord (copyOf busybox).target := by
  decide +kernel

theorem plainNames_of_busybox {files : List Mapping}
    (h : ∀ c ∈ copies files, c = copyOf busybox) : PlainNames files := by
  intro c hc
  rw [h c hc]
  exact plainWord_busybox

theorem consistent_of_busybox {files : List Mapping}
    (h : ∀ c ∈ copies files, c = copyOf busybox) : Consistent (copies files) := by
  have hne : (copyOf busybox).target ≠ (copyOf busybox).source := by decide +kernel
  constructor
  · intro c hc d hd _
    rw [h c hc, h d hd]
  · intro c hc d hd hcd
    rw [h c hc, h d hd] at hcd
    exact absurd hcd hne

theorem mem_copies_busyboxFiles : ∀ c ∈ copies busyboxFiles, c = copyOf busybox := by
  have hcopies : copies busyboxFiles = [copyOf busybox, copyOf busybox] := rfl
  simp [hcopies]

theorem script_migrates_busybox :
    ∃ final, Migrated (copies busyboxFiles) staleImages final ∧
      ∀ ord, (runScript plainHost noFailure (shScript ord busyboxFiles) staleImages).1 = final := by
  refine script_migrates plainHost_laws busyboxFiles staleImages
    (plainNames_of_busybox mem_copies_busyboxFiles) ?_
    (consistent_of_busybox mem_copies_busyboxFiles)
  intro c hc
  rw [mem_copies_busyboxFiles c hc]
  simp [staleImages, copyOf, busybox, AList.lookup]

section Tree

variable (unmarshal : ByteArray → Except String Mapping) (disk : Disk)

def treeCopies : List (Copy String) :=
  (entriesOf unmarshal disk (mappingFiles disk.root)).map copyOf

/-- From the tree to the registry: a run that is neither interrupted nor short of an entry
leaves a script in `sh.sh` that migrates every image of the tree. -/
theorem main_migrates {host : Host C} (laws : BuildahLaws host) (σ : Images String C)
    (ord : RangeOrder) (complete : ¬ Interrupted unmarshal disk)
    (listable : NothingHidden unmarshal disk) (written : disk.writeFile = .written)
    (plain : ∀ c ∈ treeCopies unmarshal disk, PlainWord c.source ∧ PlainWord c.target)
    (found : ∀ c ∈ treeCopies unmarshal disk, (σ.published c.source).isSome)
    (consistent : Consistent (treeCopies unmarshal disk)) :
    ∃ text, (main unmarshal ord disk).stop = none ∧
      (main unmarshal ord disk).shSh = some text ∧
      Migrated (treeCopies unmarshal disk) σ (runScript host noFailure text σ).1 := by
  obtain ⟨stats, files, decoded, hmain⟩ := main_of_not_interrupted unmarshal disk ord complete
  have hperm : (copies files).Perm (treeCopies unmarshal disk) :=
    (emittedCopies_perm ord files).symm.trans
      ((emitted_perm_entries unmarshal disk ord files decoded stats listable).map copyOf)
  have hmem : ∀ c, c ∈ copies files ↔ c ∈ treeCopies unmarshal disk := fun c => hperm.mem_iff
  have hmig := runScript_migrated laws files σ (fun c hc => plain c ((hmem c).mp hc))
    (fun c hc => found c ((hmem c).mp hc)) (consistent.of_mem hmem) ord
  rw [hmain, printAndWrite, written]
  exact ⟨_, rfl, rfl, hmig.of_mem (fun c => (hmem c).symm)⟩

end Tree

theorem busyboxListing_sorted : (FileTree.Listing.dir "middleware-research" none none
    (.file mappingName none .nil) .nil : FileTree.Listing String String).Sorted := by
  simp [FileTree.Listing.Sorted, FileTree.Listing.names]

def busyboxDisk : Disk where
  root :=
    { lstat := none
      readDir := none
      children := .dir "middleware-research" none none (.file mappingName none .nil) .nil
      sorted := busyboxListing_sorted }
  content _ := middlewareYaml.toUTF8
  readFault _ := none
  writeFile := .written
  shSh := none

theorem mem_treeCopies_busyboxDisk :
    ∀ c ∈ treeCopies (decodeOnly middlewareYaml middlewareFile) busyboxDisk,
      c = copyOf busybox := by
  intro c hc
  rw [treeCopies, List.mem_map] at hc
  obtain ⟨iF, hiF, rfl⟩ := hc
  obtain ⟨p, -, hp⟩ := List.mem_flatMap.mp hiF
  rw [entriesAt_decodeOnly busyboxDisk middlewareFile rfl] at hp
  have hiF : iF = busybox := List.mem_singleton.mp hp
  rw [hiF]

theorem main_migrates_busyboxDisk :
    ∃ text,
      (main (decodeOnly middlewareYaml middlewareFile) asListed busyboxDisk).stop = none ∧
      (main (decodeOnly middlewareYaml middlewareFile) asListed busyboxDisk).shSh = some text ∧
      Migrated (treeCopies (decodeOnly middlewareYaml middlewareFile) busyboxDisk) staleImages
        (runScript plainHost noFailure text staleImages).1 := by
  have hmem := mem_treeCopies_busyboxDisk
  have hne : (copyOf busybox).target ≠ (copyOf busybox).source := by decide +kernel
  refine main_migrates _ busyboxDisk plainHost_laws staleImages asListed ?_ ?_ rfl ?_ ?_ ⟨?_, ?_⟩
  · rintro (hfault | ⟨p, -, stop, hstop⟩)
    · cases hfault
    · rw [readMapping_decodeOnly _ _ _ rfl] at hstop
      cases hstop
  · intro p hp
    cases hp
  · intro c hc
    rw [hmem c hc]
    exact plainWord_busybox
  · intro c hc
    rw [hmem c hc]
    simp [staleImages, copyOf, busybox, AList.lookup]
  · intro c hc d hd _
    rw [hmem c hc, hmem d hd]
  · intro c hc d hd hcd
    rw [hmem c hc, hmem d hd] at hcd
    exact absurd hcd hne

end MigrateImageRepository.Migration
