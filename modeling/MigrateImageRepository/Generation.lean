import Mathlib.Data.List.Forall2
import Mathlib.Data.List.Sort
import MigrateImageRepository.Script

/-! A whole run of the generator over a tree with faults.
The callback of the walk never looks at its error, so a directory that cannot be
listed is passed over without a word. A run that reaches its end is shown to be all
or nothing exactly when every mapping file lost that way decodes to no entry. -/

namespace MigrateImageRepository.Generation
open FileTree Generator Script

def isMapping (path : Path) : Bool := path.getLast? = some mappingName

section Walk

variable (root : Root String String)

def mappingFiles : List Path := ((root.node rootName).files rootParent).filter isMapping

def listedMappings : List Path := ((root.node rootName).listed rootParent).filter isMapping

def hiddenMappings : List Path := ((root.node rootName).hidden rootParent).filter isMapping

def statFault : Bool := (root.node rootName).statFault

theorem mappingFiles_pairwise : (mappingFiles root).Pairwise (· < ·) :=
  ((root.node rootName).files_pairwise rootParent (root.node_sorted rootName)).filter _

theorem listedMappings_sublist : (listedMappings root).Sublist (mappingFiles root) :=
  ((root.node rootName).listed_sublist_files rootParent).filter _

theorem mappingFiles_perm (h : statFault root = false) :
    (mappingFiles root).Perm (listedMappings root ++ hiddenMappings root) := by
  rw [mappingFiles, listedMappings, hiddenMappings, ← List.filter_append]
  exact ((root.node rootName).files_perm rootParent h).filter _

def collected (v : Visit String String) : Bool :=
  v.info.any (fun info => !info.isDir && decide (info.name = mappingName))

theorem walkFn_some (path : Path) (info : FileInfo String) (err : Option String)
    (files : List Path) : walkFn path (some info) err files =
      .ok (files ++ ([⟨path, some info, err⟩].filter collected).map Visit.path) := by
  cases hdir : info.isDir with
  | true => simp [walkFn, collected, hdir]
  | false => by_cases hname : info.name = mappingName <;> simp [walkFn, collected, hdir, hname]

theorem foldlM_walkFn (vs : List (Visit String String)) (files : List Path) :
    vs.foldlM (fun files v => walkFn v.path v.info v.err files) files =
      if vs.any (fun v => v.info.isNone) then .error (.panicked nilDereference)
      else .ok (files ++ (vs.filter collected).map Visit.path) := by
  induction vs generalizing files with
  | nil => simp [pure, Except.pure]
  | cons v vs ih =>
    obtain ⟨path, info, err⟩ := v
    cases info with
    | none => rfl
    | some info =>
      have hfilter := List.filter_append (p := collected) [⟨path, some info, err⟩] vs
      rw [List.singleton_append] at hfilter
      rw [List.foldlM_cons, walkFn_some, hfilter, List.map_append, ← List.append_assoc]
      exact ih _

theorem map_filter_collected :
    (((root.node rootName).visits rootParent).filter collected).map Visit.path =
      listedMappings root := by
  rw [listedMappings, ← Listing.filter_visits_isFile, List.filter_map, List.filter_filter]
  congr 1
  apply List.filter_congr
  intro v hv
  cases hinfo : v.info with
  | none => simp [collected, hinfo]
  | some info =>
    have hname := Listing.getLast?_of_mem_visits hv hinfo
    simp [collected, hinfo, isMapping, hname, Bool.and_comm]

theorem collect_eq : collect root =
    if statFault root then .error (.panic nilDereference) else .ok (listedMappings root) := by
  rw [collect, Listing.walk_eq_foldlM, foldlM_walkFn, Listing.any_visits_isNone,
    map_filter_collected, statFault]
  cases (root.node rootName).statFault <;> rfl

end Walk

theorem exists_forall₂_of_sublist {α β : Type*} {R : α → List β → Prop} {ps qs : List α}
    {bs : List (List β)} (hsub : ps.Sublist qs) (hnodup : qs.Nodup)
    (h : List.Forall₂ R ps bs) (hrest : ∀ q ∈ qs, q ∉ ps → R q []) :
    ∃ cs, List.Forall₂ R qs cs ∧ cs.flatten = bs.flatten := by
  induction hsub generalizing bs with
  | slnil => exact ⟨bs, h, rfl⟩
  | @cons ps qs a hsub ih =>
    rw [List.nodup_cons] at hnodup
    have ha : a ∉ ps := fun hmem => hnodup.1 (hsub.subset hmem)
    obtain ⟨cs, hcs, hflat⟩ :=
      ih hnodup.2 h (fun q hq hnot => hrest q (List.mem_cons_of_mem _ hq) hnot)
    exact ⟨[] :: cs, .cons (hrest a List.mem_cons_self ha) hcs, by simpa using hflat⟩
  | @cons_cons ps qs a hsub ih =>
    rw [List.nodup_cons] at hnodup
    cases h with
    | @cons _ b _ bs hab htail =>
      obtain ⟨cs, hcs, hflat⟩ := ih hnodup.2 htail (fun q hq hnot => by
        apply hrest q (List.mem_cons_of_mem _ hq)
        rw [List.mem_cons, not_or]
        exact ⟨fun hqa => hnodup.1 (hqa ▸ hq), hnot⟩)
      exact ⟨b :: cs, .cons hab hcs, by simp [hflat]⟩

theorem exists_of_mem_forall₂ {α β : Type*} {R : α → β → Prop} {ps : List α} {bs : List β}
    (h : List.Forall₂ R ps bs) {p : α} (hp : p ∈ ps) : ∃ b, R p b := by
  induction h with
  | nil => exact absurd hp List.not_mem_nil
  | cons hab _ ih =>
    rcases List.mem_cons.mp hp with rfl | hp
    · exact ⟨_, hab⟩
    · exact ih hp

theorem length_blocks_perm {es fs : List ImageEntry} (h : es.Perm fs) :
    (blocks es).length = (blocks fs).length := by
  induction h with
  | nil => rfl
  | cons iF _ ih => simp only [blocks, String.length_append, ih]
  | swap iF iG es =>
    simp only [blocks, String.length_append]
    omega
  | trans _ _ ihl ihr => rw [ihl, ihr]

theorem length_block_pos (iF : ImageEntry) : 0 < (block iF).length := by
  have hline : 0 < "\n".length := by decide
  unfold block
  exact Nat.lt_of_lt_of_le hline ((Nat.le_add_left _ _).trans_eq (String.length_append _ _).symm)

theorem eq_nil_of_length_blocks {es : List ImageEntry} (h : (blocks es).length = 0) :
    es = [] := by
  cases es with
  | nil => rfl
  | cons iF es =>
    rw [blocks, String.length_append] at h
    exact absurd (Nat.add_eq_zero_iff.mp h).1 (Nat.ne_of_gt (length_block_pos iF))

section Run

variable (unmarshal : ByteArray → Except String Mapping) (disk : Disk)

/-- The entries written down in a file, whether or not the file can be read; there are
none to speak of in a content that does not decode. -/
def entriesAt (p : Path) : Option (List ImageEntry) :=
  match unmarshal (disk.content p) with
  | .ok m => some (imageEntries m)
  | .error _ => none

theorem entriesAt_decodeOnly {yaml : String} (m : Mapping) {p : Path}
    (h : disk.content p = yaml.toUTF8) :
    entriesAt (decodeOnly yaml m) disk p = some (imageEntries m) := by
  rw [entriesAt, h, decodeOnly_toUTF8]

def Holds (p : Path) (es : List ImageEntry) : Prop :=
  ∃ fs, entriesAt unmarshal disk p = some fs ∧ es.Perm fs

/-- Every mapping file of the tree decodes, and the script holds the blocks of all of them
and no others, one file after the other in the order of their paths. -/
def CompleteScript (text : String) : Prop :=
  ∃ perFile : List (Path × List ImageEntry),
    (perFile.map Prod.fst).Pairwise (· < ·) ∧
    (∀ p, p ∈ perFile.map Prod.fst ↔ p ∈ mappingFiles disk.root) ∧
    (∀ b ∈ perFile, Holds unmarshal disk b.1 b.2) ∧
    text = shHeader ++ blocks (perFile.flatMap Prod.snd)

/-- A run stops and leaves `sh.sh` alone, or it ends with a complete script there. -/
def AllOrNothing (out : Outcome) : Prop :=
  (out.stop.isSome ∧ out.shSh = disk.shSh) ∨
    (out.stop = none ∧ ∃ text, out.shSh = some text ∧ CompleteScript unmarshal disk text)

/-- The walk meets a node without a stat, or a listed mapping file is not read or not
decoded. -/
def Interrupted : Prop :=
  statFault disk.root = true ∨
    ∃ p ∈ listedMappings disk.root, ∃ stop,
      readMapping unmarshal disk.readFile p = .error stop

/-- Every mapping file below a directory that cannot be listed decodes to no entry. -/
def NothingHidden : Prop :=
  ∀ p ∈ hiddenMappings disk.root, entriesAt unmarshal disk p = some []

theorem completeScript_iff (text : String) :
    CompleteScript unmarshal disk text ↔
      ∃ bs, List.Forall₂ (Holds unmarshal disk) (mappingFiles disk.root) bs ∧
        text = shHeader ++ blocks bs.flatten := by
  refine ⟨?_, ?_⟩
  · rintro ⟨perFile, hsorted, hmem, hholds, htext⟩
    have hfst := hsorted.eq_of_mem_iff (mappingFiles_pairwise disk.root) hmem
    refine ⟨perFile.map Prod.snd, ?_, ?_⟩
    · rw [← hfst, List.forall₂_map_left_iff, List.forall₂_map_right_iff, List.forall₂_same]
      exact hholds
    · rwa [← List.flatMap_def]
  · rintro ⟨bs, hbs, htext⟩
    have hlen := hbs.length_eq
    have hfst := List.map_fst_zip (Nat.le_of_eq hlen)
    have hsnd := List.map_snd_zip (Nat.le_of_eq hlen.symm)
    refine ⟨(mappingFiles disk.root).zip bs, ?_, ?_, ?_, ?_⟩
    · rw [hfst]
      exact mappingFiles_pairwise disk.root
    · intro p
      rw [hfst]
    · rintro ⟨p, es⟩ hb
      exact List.forall₂_zip hbs hb
    · rw [List.flatMap_def, hsnd, htext]

def entriesOf (ps : List Path) : List ImageEntry :=
  ps.flatMap fun p => (entriesAt unmarshal disk p).getD []

theorem flatten_perm {ps : List Path} {bs : List (List ImageEntry)}
    (h : List.Forall₂ (Holds unmarshal disk) ps bs) :
    bs.flatten.Perm (entriesOf unmarshal disk ps) := by
  induction h with
  | nil => exact List.Perm.refl _
  | cons hholds _ ih =>
    obtain ⟨fs, hfs, hperm⟩ := hholds
    rw [entriesOf, List.flatten_cons, List.flatMap_cons, hfs]
    exact hperm.append ih

theorem entriesAt_of_readMapping {p : Path} {m : Mapping}
    (h : readMapping unmarshal disk.readFile p = .ok m) :
    entriesAt unmarshal disk p = some (imageEntries m) := by
  rw [readMapping, Disk.readFile] at h
  cases hfault : disk.readFault p with
  | some err => simp [hfault] at h
  | none =>
    cases hm : unmarshal (disk.content p) with
    | error err => simp [hfault, hm] at h
    | ok m' =>
      obtain rfl : m' = m := by simpa [hfault, hm] using h
      simp [entriesAt, hm]

theorem exists_ranged (ord : RangeOrder) (i : ℕ) {paths : List Path} {files : List Mapping}
    (decoded : paths.map (readMapping unmarshal disk.readFile) = files.map .ok) :
    ∃ bs, List.Forall₂ (Holds unmarshal disk) paths bs ∧
      bs.flatten = emitted ord i files := by
  induction paths generalizing i files with
  | nil =>
    obtain rfl : files = [] := by simpa using decoded.symm
    exact ⟨[], .nil, rfl⟩
  | cons p paths ih =>
    cases files with
    | nil => simp at decoded
    | cons m files =>
      rw [List.map_cons, List.map_cons, List.cons.injEq] at decoded
      obtain ⟨bs, hbs, hflat⟩ := ih (i + 1) decoded.2
      have hentries := entriesAt_of_readMapping unmarshal disk decoded.1
      refine ⟨ranged ord i m :: bs, .cons ⟨_, hentries, ranged_perm ord i m⟩ hbs, ?_⟩
      rw [List.flatten_cons, hflat, emitted]

theorem exists_decoded {paths : List Path}
    (h : ∀ p ∈ paths, ∀ stop, readMapping unmarshal disk.readFile p ≠ .error stop) :
    ∃ files : List Mapping,
      paths.map (readMapping unmarshal disk.readFile) = files.map .ok := by
  induction paths with
  | nil => exact ⟨[], rfl⟩
  | cons p paths ih =>
    obtain ⟨files, hfiles⟩ := ih (fun q hq => h q (List.mem_cons_of_mem _ hq))
    cases hp : readMapping unmarshal disk.readFile p with
    | error stop => exact absurd hp (h p List.mem_cons_self stop)
    | ok m => exact ⟨m :: files, by rw [List.map_cons, hp, hfiles, List.map_cons]⟩

variable (ord : RangeOrder)

theorem main_of_interrupted (h : Interrupted unmarshal disk) :
    ∃ stop, main unmarshal ord disk = ⟨some stop, "", disk.shSh⟩ := by
  rw [main, collect_eq]
  cases hfault : statFault disk.root with
  | true => exact ⟨.panic nilDereference, rfl⟩
  | false =>
    obtain ⟨p, hp, stop, herr⟩ := h.resolve_left (by simp [hfault])
    simp only [Bool.false_eq_true, if_false]
    cases hrun : readAndEmit unmarshal disk.readFile ord 0 (listedMappings disk.root) shHeader with
    | error stop => exact ⟨stop, rfl⟩
    | ok text =>
      obtain ⟨files, decoded, -⟩ :=
        (readAndEmit_eq_ok_iff unmarshal disk.readFile ord 0 _ _ _).mp hrun
      have hmem := List.mem_map_of_mem (f := readMapping unmarshal disk.readFile) hp
      rw [decoded, herr] at hmem
      simp at hmem

theorem main_of_not_interrupted (h : ¬ Interrupted unmarshal disk) :
    statFault disk.root = false ∧ ∃ files,
      (listedMappings disk.root).map (readMapping unmarshal disk.readFile) = files.map .ok ∧
      main unmarshal ord disk = printAndWrite disk (shScript ord files) := by
  rw [Interrupted, not_or, Bool.not_eq_true] at h
  obtain ⟨files, decoded⟩ := exists_decoded unmarshal disk
    (fun p hp stop herr => h.2 ⟨p, hp, stop, herr⟩)
  refine ⟨h.1, files, decoded, ?_⟩
  simp only [main, collect_eq, h.1, Bool.false_eq_true, if_false,
    readAndEmit_of_decoded unmarshal disk.readFile ord decoded]

section Decoded

variable (files : List Mapping)
  (decoded : (listedMappings disk.root).map (readMapping unmarshal disk.readFile) =
    files.map .ok) (stats : statFault disk.root = false)

include decoded stats

theorem nothingHidden_of_completeScript
    (h : CompleteScript unmarshal disk (shScript ord files)) : NothingHidden unmarshal disk := by
  obtain ⟨bs, hbs, hflat⟩ := exists_ranged unmarshal disk ord 0 decoded
  obtain ⟨cs, hcs, htext⟩ := (completeScript_iff unmarshal disk _).mp h
  have hfiles := mappingFiles_perm disk.root stats
  rw [shScript_eq, ← hflat] at htext
  have hshort := length_blocks_perm (flatten_perm unmarshal disk hbs)
  have hlong := length_blocks_perm ((flatten_perm unmarshal disk hcs).trans
    (hfiles.flatMap_right _))
  have hsame := congrArg String.length htext
  rw [List.flatMap_append, blocks_append, String.length_append] at hlong
  simp only [String.length_append, entriesOf] at hsame hshort
  have hzero : (blocks (entriesOf unmarshal disk (hiddenMappings disk.root))).length = 0 := by
    rw [entriesOf]
    omega
  have hnone := List.flatMap_eq_nil_iff.mp (eq_nil_of_length_blocks hzero)
  intro p hp
  -- a complete script has blocks for the file, so its content decodes
  obtain ⟨es, fs, hfs, -⟩ :=
    exists_of_mem_forall₂ hcs (hfiles.mem_iff.mpr (List.mem_append_right _ hp))
  have hempty := hnone p hp
  rw [hfs, Option.getD_some] at hempty
  rw [hfs, hempty]

theorem exists_perFile (h : NothingHidden unmarshal disk) :
    ∃ bs, List.Forall₂ (Holds unmarshal disk) (mappingFiles disk.root) bs ∧
      bs.flatten = emitted ord 0 files := by
  obtain ⟨bs, hbs, hflat⟩ := exists_ranged unmarshal disk ord 0 decoded
  have hrest : ∀ q ∈ mappingFiles disk.root, q ∉ listedMappings disk.root →
      Holds unmarshal disk q [] := by
    intro q hq hnot
    have hmem := (mappingFiles_perm disk.root stats).mem_iff.mp hq
    exact ⟨[], h q ((List.mem_append.mp hmem).resolve_left hnot), List.Perm.refl _⟩
  rw [← hflat]
  exact exists_forall₂_of_sublist (listedMappings_sublist disk.root)
    (mappingFiles_pairwise disk.root).nodup hbs hrest

theorem completeScript_of_nothingHidden (h : NothingHidden unmarshal disk) :
    CompleteScript unmarshal disk (shScript ord files) := by
  obtain ⟨bs, hbs, hflat⟩ := exists_perFile unmarshal disk ord files decoded stats h
  refine (completeScript_iff unmarshal disk _).mpr ⟨bs, hbs, ?_⟩
  rw [shScript_eq, hflat]

theorem emitted_perm_entries (h : NothingHidden unmarshal disk) :
    (emitted ord 0 files).Perm (entriesOf unmarshal disk (mappingFiles disk.root)) := by
  obtain ⟨bs, hbs, hflat⟩ := exists_perFile unmarshal disk ord files decoded stats h
  rw [← hflat]
  exact flatten_perm unmarshal disk hbs

end Decoded

theorem nothingHidden_of_allOrNothing (hint : ¬ Interrupted unmarshal disk)
    (hwrite : disk.writeFile = .written)
    (h : AllOrNothing unmarshal disk (main unmarshal ord disk)) :
    NothingHidden unmarshal disk := by
  obtain ⟨stats, files, decoded, hmain⟩ := main_of_not_interrupted unmarshal disk ord hint
  rw [hmain, printAndWrite, hwrite] at h
  rcases h with ⟨hstop, -⟩ | ⟨-, text, htext, hcomplete⟩
  · cases hstop
  · rw [← Option.some.inj htext] at hcomplete
    exact nothingHidden_of_completeScript unmarshal disk ord files decoded stats hcomplete

end Run

/-- A tree whose only mapping file lies in a directory that may be neither listed nor
entered, so that the file cannot be read either. -/
def forbiddenDisk : Disk where
  root :=
    { lstat := none
      readDir := none
      children := .dir "middleware-research" none (some "permission denied")
        (.file mappingName none .nil) .nil
      sorted := by simp [Listing.Sorted, Listing.names] }
  content _ := middlewareYaml.toUTF8
  readFault _ := some "permission denied"
  writeFile := .written
  shSh := none

end MigrateImageRepository.Generation
