import Mathlib.Data.List.Basic

/-! Directory trees with faults and the recursive walk over them.
A directory is the sequence of its children in the order of their names. Every
child may fail to be stat'ed and every directory may fail to be listed. The walk
hands each visited node to a callback that may stop it; a failed stat is handed
over without file information, a failed listing with the information of the
directory, and neither is descended into. Sentinel results that skip part of the
tree are left out. -/

namespace MigrateImageRepository.FileTree

variable {ν ε η σ : Type*}

/-- A directory's children: the first child and the remaining ones. -/
inductive Listing (ν ε : Type*) where
  | nil
  | file (name : ν) (lstat : Option ε) (rest : Listing ν ε)
  | dir (name : ν) (lstat readDir : Option ε) (children rest : Listing ν ε)

structure FileInfo (ν : Type*) where
  name : ν
  isDir : Bool
deriving DecidableEq

structure Visit (ν ε : Type*) where
  path : List ν
  info : Option (FileInfo ν)
  err : Option ε

abbrev WalkFunc (ν ε η σ : Type*) :=
  List ν → Option (FileInfo ν) → Option ε → σ → Except η σ

namespace Listing

def names : Listing ν ε → List ν
  | nil => []
  | file name _ rest => name :: rest.names
  | dir name _ _ _ rest => name :: rest.names

def Sorted [LT ν] : Listing ν ε → Prop
  | nil => True
  | file name _ rest => (∀ m ∈ rest.names, name < m) ∧ rest.Sorted
  | dir name _ _ children rest =>
    (∀ m ∈ rest.names, name < m) ∧ children.Sorted ∧ rest.Sorted

def files (base : List ν) : Listing ν ε → List (List ν)
  | nil => []
  | file name _ rest => (base ++ [name]) :: rest.files base
  | dir name _ _ children rest => children.files (base ++ [name]) ++ rest.files base

/-- The files left when nodes without a stat and directories without a listing are cut off. -/
def listed (base : List ν) : Listing ν ε → List (List ν)
  | nil => []
  | file name lstat rest =>
    if lstat.isNone then (base ++ [name]) :: rest.listed base else rest.listed base
  | dir name lstat readDir children rest =>
    if lstat.isNone && readDir.isNone then
      children.listed (base ++ [name]) ++ rest.listed base
    else rest.listed base

/-- The files below a directory that cannot be listed. -/
def hidden (base : List ν) : Listing ν ε → List (List ν)
  | nil => []
  | file _ _ rest => rest.hidden base
  | dir name _ readDir children rest =>
    if readDir.isSome then children.files (base ++ [name]) ++ rest.hidden base
    else children.hidden (base ++ [name]) ++ rest.hidden base

/-- Some node cannot be stat'ed and no directory above it fails. -/
def statFault : Listing ν ε → Bool
  | nil => false
  | file _ lstat rest => lstat.isSome || rest.statFault
  | dir _ lstat readDir children rest =>
    lstat.isSome || (readDir.isNone && children.statFault) || rest.statFault

def walk (fn : WalkFunc ν ε η σ) (base : List ν) : Listing ν ε → σ → Except η σ
  | nil, s => .ok s
  | file name (some err) rest, s => do
    let s ← fn (base ++ [name]) none (some err) s
    rest.walk fn base s
  | file name none rest, s => do
    let s ← fn (base ++ [name]) (some ⟨name, false⟩) none s
    rest.walk fn base s
  | dir name (some err) _ _ rest, s => do
    let s ← fn (base ++ [name]) none (some err) s
    rest.walk fn base s
  | dir name none (some err) _ rest, s => do
    let s ← fn (base ++ [name]) (some ⟨name, true⟩) (some err) s
    rest.walk fn base s
  | dir name none none children rest, s => do
    let s ← fn (base ++ [name]) (some ⟨name, true⟩) none s
    let s ← children.walk fn (base ++ [name]) s
    rest.walk fn base s

/-- The calls the walk makes as long as no call stops it. -/
def visits (base : List ν) : Listing ν ε → List (Visit ν ε)
  | nil => []
  | file name (some err) rest => ⟨base ++ [name], none, some err⟩ :: rest.visits base
  | file name none rest => ⟨base ++ [name], some ⟨name, false⟩, none⟩ :: rest.visits base
  | dir name (some err) _ _ rest => ⟨base ++ [name], none, some err⟩ :: rest.visits base
  | dir name none (some err) _ rest =>
    ⟨base ++ [name], some ⟨name, true⟩, some err⟩ :: rest.visits base
  | dir name none none children rest =>
    ⟨base ++ [name], some ⟨name, true⟩, none⟩ ::
      (children.visits (base ++ [name]) ++ rest.visits base)

theorem walk_eq_foldlM (fn : WalkFunc ν ε η σ) (base : List ν) (l : Listing ν ε) (s : σ) :
    l.walk fn base s = (l.visits base).foldlM (fun s v => fn v.path v.info v.err s) s := by
  induction l generalizing base s with
  | nil => rfl
  | file name lstat rest ih =>
    cases lstat <;> simp only [walk, visits, List.foldlM_cons, ih]
  | dir name lstat readDir children rest ihc ihr =>
    cases lstat with
    | some err => simp only [walk, visits, List.foldlM_cons, ihr]
    | none =>
      cases readDir <;>
        simp only [walk, visits, List.foldlM_cons, List.foldlM_append, ihc, ihr]

theorem any_visits_isNone (base : List ν) (l : Listing ν ε) :
    (l.visits base).any (fun v => v.info.isNone) = l.statFault := by
  induction l generalizing base with
  | nil => rfl
  | file name lstat rest ih => cases lstat <;> simp [visits, statFault, ih]
  | dir name lstat readDir children rest ihc ihr =>
    cases lstat <;> cases readDir <;> simp [visits, statFault, ihc, ihr]

theorem filter_visits_isFile (base : List ν) (l : Listing ν ε) :
    ((l.visits base).filter (fun v => v.info.any (fun info => !info.isDir))).map Visit.path =
      l.listed base := by
  induction l generalizing base with
  | nil => rfl
  | file name lstat rest ih => cases lstat <;> simp [visits, listed, ih]
  | dir name lstat readDir children rest ihc ihr =>
    cases lstat <;> cases readDir <;> simp [visits, listed, ihc, ihr]

theorem getLast?_of_mem_visits {base : List ν} {l : Listing ν ε} {v : Visit ν ε}
    {info : FileInfo ν} (hv : v ∈ l.visits base) (hinfo : v.info = some info) :
    v.path.getLast? = some info.name := by
  induction l generalizing base with
  | nil => simp [visits] at hv
  | file name lstat rest ih =>
    cases lstat <;> rcases List.mem_cons.mp hv with rfl | hv
    · obtain rfl := Option.some.inj hinfo
      simp
    · exact ih hv
    · cases hinfo
    · exact ih hv
  | dir name lstat readDir children rest ihc ihr =>
    cases lstat with
    | some err =>
      rcases List.mem_cons.mp hv with rfl | hv
      · cases hinfo
      · exact ihr hv
    | none =>
      cases readDir <;> rcases List.mem_cons.mp hv with rfl | hv
      · obtain rfl := Option.some.inj hinfo
        simp
      · rcases List.mem_append.mp hv with hv | hv
        · exact ihc hv
        · exact ihr hv
      · obtain rfl := Option.some.inj hinfo
        simp
      · exact ihr hv

/-- As long as no stat fails, only unlistable directories hide files. -/
theorem files_perm (base : List ν) {l : Listing ν ε} (h : l.statFault = false) :
    (l.files base).Perm (l.listed base ++ l.hidden base) := by
  induction l generalizing base with
  | nil => exact List.Perm.refl _
  | file name lstat rest ih =>
    rw [statFault, Bool.or_eq_false_iff, Option.isSome_eq_false_iff] at h
    rw [files, listed, hidden, if_pos h.1]
    exact (ih base h.2).cons _
  | dir name lstat readDir children rest ihc ihr =>
    simp only [statFault, Bool.or_eq_false_iff, Option.isSome_eq_false_iff] at h
    obtain ⟨⟨hstat, hchildren⟩, hrest⟩ := h
    have hr := ihr base hrest
    cases readDir with
    | some err =>
      have hlisted : (dir name lstat (some err) children rest).listed base =
          rest.listed base := by simp [listed]
      rw [files, hlisted, hidden, if_pos (Option.isSome_some)]
      exact (hr.append_left _).trans (List.perm_append_comm_assoc _ _ _)
    | none =>
      have hc := ihc (base ++ [name]) hchildren
      have hlisted : (dir name lstat none children rest).listed base =
          children.listed (base ++ [name]) ++ rest.listed base := by
        rw [listed, hstat, Option.isNone_none, Bool.and_true, if_pos rfl]
      have hhidden : (dir name lstat none children rest).hidden base =
          children.hidden (base ++ [name]) ++ rest.hidden base := by simp [hidden]
      rw [files, hlisted, hhidden, List.append_assoc]
      apply (hc.append hr).trans
      rw [List.append_assoc]
      exact (List.perm_append_comm_assoc _ _ _).append_left _

theorem listed_sublist_files (base : List ν) (l : Listing ν ε) :
    (l.listed base).Sublist (l.files base) := by
  induction l generalizing base with
  | nil => exact List.Sublist.refl _
  | file name lstat rest ih =>
    rw [listed]
    split
    · exact (ih base).cons_cons _
    · exact (ih base).cons _
  | dir name lstat readDir children rest ihc ihr =>
    rw [listed]
    split
    · exact (ihc _).append (ihr base)
    · exact (ihr base).trans (List.sublist_append_right _ _)

theorem exists_of_mem_files {base p : List ν} {l : Listing ν ε} (h : p ∈ l.files base) :
    ∃ n ∈ l.names, ∃ tail, p = base ++ n :: tail := by
  induction l generalizing base with
  | nil => simp [files] at h
  | file name lstat rest ih =>
    rcases List.mem_cons.mp h with rfl | h
    · exact ⟨name, List.mem_cons_self, [], rfl⟩
    · obtain ⟨n, hn, tail, rfl⟩ := ih h
      exact ⟨n, List.mem_cons_of_mem _ hn, tail, rfl⟩
  | dir name lstat readDir children rest ihc ihr =>
    rcases List.mem_append.mp h with h | h
    · obtain ⟨n, -, tail, rfl⟩ := ihc h
      exact ⟨name, List.mem_cons_self, n :: tail, by simp⟩
    · obtain ⟨n, hn, tail, rfl⟩ := ihr h
      exact ⟨n, List.mem_cons_of_mem _ hn, tail, rfl⟩

variable [LT ν]

theorem append_cons_lt (base : List ν) {n m : ν} (h : n < m) (x y : List ν) :
    base ++ n :: x < base ++ m :: y :=
  List.append_left_lt (List.cons_lt_cons_iff.mpr (Or.inl h))

theorem files_pairwise (base : List ν) (l : Listing ν ε) (h : l.Sorted) :
    (l.files base).Pairwise (· < ·) := by
  induction l generalizing base with
  | nil => exact List.Pairwise.nil
  | file name lstat rest ih =>
    refine List.Pairwise.cons ?_ (ih base h.2)
    intro p hp
    obtain ⟨m, hm, tail, rfl⟩ := exists_of_mem_files hp
    exact append_cons_lt base (h.1 m hm) [] tail
  | dir name lstat readDir children rest ihc ihr =>
    refine List.pairwise_append.mpr ⟨ihc (base ++ [name]) h.2.1, ihr base h.2.2, ?_⟩
    intro p hp q hq
    obtain ⟨n, -, x, rfl⟩ := exists_of_mem_files hp
    obtain ⟨m, hm, y, rfl⟩ := exists_of_mem_files hq
    rw [List.append_assoc, List.singleton_append]
    exact append_cons_lt base (h.1 m hm) (n :: x) y

end Listing

structure Root (ν ε : Type*) [LT ν] where
  lstat : Option ε
  readDir : Option ε
  children : Listing ν ε
  sorted : children.Sorted

namespace Root

def node [LT ν] (name : ν) (root : Root ν ε) : Listing ν ε :=
  .dir name root.lstat root.readDir root.children .nil

theorem node_sorted [LT ν] (name : ν) (root : Root ν ε) : (root.node name).Sorted :=
  ⟨by simp [Listing.names], root.sorted, trivial⟩

end Root

end MigrateImageRepository.FileTree
