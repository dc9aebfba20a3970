import MigrateImageRepository.CopyFailures
import MigrateImageRepository.Migration

/-! Runs of the script in which pulls and pushes fail.
The script has no guard between its commands, so after a failed pull it tags and
pushes whatever the build host held under the name. A wrong image can only come from
such a stale name; the initial stores for which none is ever published are characterized. -/

namespace MigrateImageRepository.FailedSteps
open CopyBlocks CopyFailures Generator Script Buildah Migration

variable {C : Type}

/-- One block whose pull and push succeeded is enough for its entry, among the entries
that `p` singles out. -/
def CleanPublished (ord : RangeOrder) (files : List Mapping) (p : Copy String → Prop)
    (σ : Images String C) (run : Images String C × List Bool) : Prop :=
  ∀ k c, (emittedCopies ord files)[k]? = some c → p c →
    run.2[firstBlock + 4 * k]? = some true → run.2[firstBlock + 4 * k + 2]? = some true →
    run.1.published c.target = σ.published c.source

/-- No target gets a content that is neither its old one nor the one asked for, and one
block whose pull and push succeeded is enough for its entry. -/
structure NeverWrong (ord : RangeOrder) (files : List Mapping) (σ : Images String C)
    (run : Images String C × List Bool) : Prop where
  target : ∀ c ∈ copies files, run.1.published c.target = σ.published c.target ∨
    run.1.published c.target = σ.published c.source
  clean : CleanPublished ord files (fun _ => True) σ run

theorem split_of_getElem? {α : Type*} {xs : List α} {k : ℕ} {a : α} (h : xs[k]? = some a) :
    ∃ pre post, xs = pre ++ a :: post ∧ pre.length = k := by
  obtain ⟨hk, rfl⟩ := List.getElem?_eq_some_iff.mp h
  refine ⟨xs.take k, xs.drop (k + 1), ?_, List.length_take_of_le (Nat.le_of_lt hk)⟩
  rw [List.getElem_cons_drop, List.take_append_drop]

theorem exists_block (ord : RangeOrder) (files : List Mapping) (fails : ℕ → Bool) {k : ℕ}
    {c : Copy String} (hc : (emittedCopies ord files)[k]? = some c) {oks : List (Bool × Bool)}
    (hok : oks[k]? = some (true, true)) :
    ∃ pre b post, blocksFrom fails firstBlock (emittedCopies ord files) = pre ++ b :: post ∧
      b.toCopy = c ∧ oks[pre.length]? = some (true, true) := by
  obtain ⟨pre, post, hsplit, hlen⟩ := split_of_getElem? hc
  refine ⟨blocksFrom fails firstBlock pre, blockAt fails (firstBlock + 4 * pre.length) c,
    blocksFrom fails (firstBlock + 4 * pre.length + 4) post, ?_, rfl, ?_⟩
  · rw [hsplit, blocksFrom_append, blocksFrom]
  · rwa [length_blocksFrom, hlen]

section Script

variable {host : Host C} (laws : BuildahLaws host) (ord : RangeOrder) (files : List Mapping)
  (σ : Images String C) (plain : PlainNames files) (consistent : Consistent (copies files))

include laws plain consistent

theorem cleanPublished (fails : ℕ → Bool) :
    CleanPublished ord files (fun c => c.source ≠ c.target) σ
      (runScript host fails (shScript ord files) σ) := by
  obtain ⟨oks, hruns, hoks⟩ := runScript_runs laws fails ord files σ (plain.isWord ord)
  have hcs := consistent.of_mem (mem_emittedCopies ord files)
  rw [← map_blocksFrom fails firstBlock (emittedCopies ord files)] at hcs
  intro k c hc hne hpull hpush
  obtain ⟨pre, b, post, hbs, rfl, hok⟩ := exists_block ord files fails hc
    (hoks k true true hpull hpush)
  have hmem : b.toCopy ∈ (blocksFrom fails firstBlock (emittedCopies ord files)).map
      Block.toCopy := by simp [hbs]
  have hset := settled_of_runs (P := fun _ s => s.published b.source = σ.published b.source)
    hcs hruns hbs hok rfl
    (fun _ _ _ _ _ _ hsplit hs heff =>
      (published_source_of_ne hcs hsplit heff hmem hne).trans hs)
    (fun _ _ hs => hs)
  exact hset.published_target

theorem neverWrong_of_noStale (hstale : NoStale σ (emittedCopies ord files))
    (fails : ℕ → Bool) :
    NeverWrong ord files σ (runScript host fails (shScript ord files) σ) := by
  obtain ⟨oks, hruns, hoks⟩ := runScript_runs laws fails ord files σ (plain.isWord ord)
  have hmap : (blocksFrom fails firstBlock (emittedCopies ord files)).map Block.toCopy =
      emittedCopies ord files := map_blocksFrom _ _ _
  have hcs := consistent.of_mem (mem_emittedCopies ord files)
  rw [← hmap] at hcs hstale
  refine ⟨?_, ?_⟩
  · intro c hc
    have hg := guarded_of_runs hcs hstale hruns
    apply hg.published_target c
    rw [hmap]
    exact (mem_emittedCopies ord files c).mpr hc
  · intro k c hc _ hpull hpush
    obtain ⟨pre, b, post, hbs, rfl, hok⟩ := exists_block ord files fails hc
      (hoks k true true hpull hpush)
    have hmem : b.toCopy ∈ (blocksFrom fails firstBlock (emittedCopies ord files)).map
        Block.toCopy := by simp [hbs]
    have hset := settled_of_runs (P := fun done s => Guarded
      ((blocksFrom fails firstBlock (emittedCopies ord files)).map Block.toCopy) done σ s)
      hcs hruns hbs hok (guarded_nil _ σ)
      (fun _ _ _ _ _ _ hsplit hg heff => hg.step hcs hsplit hstale heff)
      (fun _ _ hg => hg.published_source hcs hmem)
    exact hset.published_target

/-- Everything fails but the push of the `k`-th block. -/
def onlyPush (k : ℕ) : ℕ → Bool := fun j => j != firstBlock + 4 * k + 2

omit laws plain consistent in
theorem blocksFrom_dark {fails : ℕ → Bool} {i : ℕ} {cs : List (Copy String)}
    (h : ∀ j, i ≤ j → j < i + 4 * cs.length → fails j = true) :
    blocksFrom fails i cs = cs.map dark := by
  induction cs generalizing i with
  | nil => rfl
  | cons c cs ih =>
    rw [List.length_cons] at h
    have hhead : blockAt fails i c = dark c := by
      simp [blockAt, dark, h i (by omega) (by omega), h (i + 2) (by omega) (by omega)]
    rw [blocksFrom, hhead, ih (fun j hj hlt => h j (by omega) (by omega)), List.map_cons]

omit laws plain consistent in
theorem blocksFrom_onlyPush (pre post : List (Copy String)) (c : Copy String) :
    blocksFrom (onlyPush pre.length) firstBlock (pre ++ c :: post) =
      pre.map dark ++ ⟨c, true, false⟩ :: post.map dark := by
  have hpre : blocksFrom (onlyPush pre.length) firstBlock pre = pre.map dark := by
    apply blocksFrom_dark
    intro j _ hlt
    simp only [onlyPush, bne_iff_ne]
    omega
  have hpost : blocksFrom (onlyPush pre.length) (firstBlock + 4 * pre.length + 4) post =
      post.map dark := by
    apply blocksFrom_dark
    intro j hj _
    simp only [onlyPush, bne_iff_ne]
    omega
  have hmid : blockAt (onlyPush pre.length) (firstBlock + 4 * pre.length) c =
      ⟨c, true, false⟩ := by
    simp [blockAt, onlyPush]
  rw [blocksFrom_append, hpre, blocksFrom, hmid, hpost]

theorem harmless_of_onlyPush {pre post : List (Copy String)} {c : Copy String}
    (hsplit : emittedCopies ord files = pre ++ c :: post)
    (hnew : c.target ∉ pre.map Copy.target)
    (hsafe : NeverWrong ord files σ
      (runScript host (onlyPush pre.length) (shScript ord files) σ)) :
    Harmless σ c (leftover σ pre c) := by
  obtain ⟨oks, hruns, -⟩ :=
    runScript_runs laws (onlyPush pre.length) ord files σ (plain.isWord ord)
  have hcs := consistent.of_mem (mem_emittedCopies ord files)
  have hbs : blocksFrom (onlyPush pre.length) firstBlock ((emitted ord 0 files).map copyOf) =
      pre.map dark ++ ⟨c, true, false⟩ :: post.map dark := by
    rw [← blocksFrom_onlyPush, ← hsplit]
    rfl
  rw [hsplit] at hcs
  rw [hbs] at hruns
  have hc : c ∈ copies files := by
    rw [← mem_emittedCopies ord, hsplit]
    simp
  exact harmless_of_blackout hcs hnew hruns (hsafe.target c hc)

theorem neverWrong_iff_noStale :
    (∀ fails, NeverWrong ord files σ (runScript host fails (shScript ord files) σ)) ↔
      NoStale σ (emittedCopies ord files) := by
  refine ⟨?_, ?_⟩
  · intro hsafe pre c post hsplit hnew
    exact harmless_of_onlyPush laws ord files σ plain consistent hsplit hnew
      (hsafe (onlyPush pre.length))
  · exact neverWrong_of_noStale laws ord files σ plain consistent

/-- Whichever pulls and pushes fail, an entry to another name gets the content asked for
from one block without a failure. No set of failures makes the script publish a wrong image
exactly when the build host holds no stale content that a failed pull would let through. -/
theorem failing_transfers :
    (∀ fails, CleanPublished ord files (fun c => c.source ≠ c.target) σ
      (runScript host fails (shScript ord files) σ)) ∧
    ((∀ fails, NeverWrong ord files σ (runScript host fails (shScript ord files) σ)) ↔
      NoStale σ (emittedCopies ord files)) :=
  ⟨cleanPublished laws ord files σ plain consistent,
    neverWrong_iff_noStale laws ord files σ plain consistent⟩

end Script

theorem failing_transfers_busybox :
    (∀ fails, CleanPublished asListed busyboxFiles (fun c => c.source ≠ c.target) staleImages
      (runScript plainHost fails (shScript asListed busyboxFiles) staleImages)) ∧
    ((∀ fails, NeverWrong asListed busyboxFiles staleImages
      (runScript plainHost fails (shScript asListed busyboxFiles) staleImages)) ↔
      NoStale staleImages (emittedCopies asListed busyboxFiles)) :=
  failing_transfers plainHost_laws asListed busyboxFiles staleImages
    (plainNames_of_busybox mem_copies_busyboxFiles)
    (consistent_of_busybox mem_copies_busyboxFiles)

theorem mem_copies_middlewareFile : ∀ c ∈ copies [middlewareFile], c = copyOf busybox := by
  have hcopies : copies [middlewareFile] = [copyOf busybox] := rfl
  simp [hcopies]

/-- The older busybox of the build host is pushed when the pull of the new one fails. -/
theorem stale_source_published :
    BuildahLaws (plainHost (C := ℕ)) ∧ PlainNames [middlewareFile] ∧
      Consistent (copies [middlewareFile]) ∧
      ¬ NeverWrong asListed [middlewareFile] staleImages
        (runScript plainHost (onlyPush 0) (shScript asListed [middlewareFile]) staleImages) := by
  have hplain := plainNames_of_busybox mem_copies_middlewareFile
  have hcs := consistent_of_busybox mem_copies_middlewareFile
  refine ⟨plainHost_laws, hplain, hcs, ?_⟩
  intro hsafe
  have hsplit : emittedCopies asListed [middlewareFile] = [] ++ copyOf busybox :: [] := rfl
  have hharm := harmless_of_onlyPush plainHost_laws asListed [middlewareFile] staleImages
    hplain hcs hsplit List.not_mem_nil hsafe
  have hsource : staleImages.held (copyOf busybox).source = some 0 := by
    simp [staleImages, copyOf, busybox, AList.lookup]
  have hleft : leftover staleImages [] (copyOf busybox) = some 0 := by
    simp [leftover, hsource]
  rw [hleft] at hharm
  simp [Harmless, staleImages, copyOf, busybox, AList.lookup] at hharm

end MigrateImageRepository.FailedSteps
