import Mathlib.Logic.Function.Basic
import MigrateImageRepository.CopyBlocks
import MigrateImageRepository.Script
import MigrateImageRepository.Sequence

/-! Running the emitted script.
The build host is a parameter: it takes the words of a command and the image
stores to the new stores and an exit status, subject to `BuildahLaws`. The shell
runs every line whatever the status of the ones before. A pull or push whose
position is marked fails and changes nothing. Each block of the script is shown
to have the effect of one copy block, and the script the effect of their run. -/

namespace MigrateImageRepository.Buildah
open CopyBlocks Generator Script Sequence

variable {C : Type}

def hold (σ : Images String C) (n : String) (x : Option C) : Images String C :=
  { σ with held := Function.update σ.held n x }

def publish (σ : Images String C) (n : String) (x : Option C) : Images String C :=
  { σ with published := Function.update σ.published n x }

@[simp] theorem hold_published (σ : Images String C) (n : String) (x : Option C) :
    (hold σ n x).published = σ.published := rfl

@[simp] theorem publish_held (σ : Images String C) (n : String) (x : Option C) :
    (publish σ n x).held = σ.held := rfl

@[simp] theorem hold_held (σ : Images String C) (n m : String) (x : Option C) :
    (hold σ n x).held m = if m = n then x else σ.held m := by
  simp [hold, Function.update_apply]

@[simp] theorem publish_published (σ : Images String C) (n m : String) (x : Option C) :
    (publish σ n x).published m = if m = n then x else σ.published m := by
  simp [publish, Function.update_apply]

theorem hold_self (σ : Images String C) (n : String) : hold σ n (σ.held n) = σ := by
  simp [hold]

abbrev Host (C : Type) := List String → Images String C → Images String C × Bool

/-- What the script relies on. `pull` stores the registry content of a name under that
name, `tag` gives the content of a local name a second name, `push` sends the content
of a local name to the registry, and each fails without effect when the name it reads
is absent. `rmi` removes the names that exist; with a missing name among its arguments
it fails, and may or may not have removed the other one. Installing buildah and logging
in leave the images alone. -/
structure BuildahLaws (host : Host C) : Prop where
  pull_found : ∀ σ s x, σ.published s = some x →
    host ["buildah", "pull", s] σ = (hold σ s (some x), true)
  pull_missing : ∀ σ s, σ.published s = none → host ["buildah", "pull", s] σ = (σ, false)
  tag_found : ∀ σ s t x, σ.held s = some x →
    host ["buildah", "tag", s, t] σ = (hold σ t (some x), true)
  tag_missing : ∀ σ s t, σ.held s = none → host ["buildah", "tag", s, t] σ = (σ, false)
  push_found : ∀ σ t x, σ.held t = some x →
    host ["buildah", "push", t] σ = (publish σ t (some x), true)
  push_missing : ∀ σ t, σ.held t = none → host ["buildah", "push", t] σ = (σ, false)
  rmi_published : ∀ σ s t, (host ["buildah", "rmi", s, t] σ).1.published = σ.published
  rmi_other : ∀ σ s t n, n ≠ s → n ≠ t →
    (host ["buildah", "rmi", s, t] σ).1.held n = σ.held n
  rmi_named : ∀ σ s t n, n = s ∨ n = t →
    (host ["buildah", "rmi", s, t] σ).1.held n = none ∨
      (host ["buildah", "rmi", s, t] σ).1.held n = σ.held n
  rmi_found : ∀ σ s t n, n = s ∨ n = t → (σ.held s).isSome → (σ.held t).isSome →
    (host ["buildah", "rmi", s, t] σ).1.held n = none
  setup : ∀ ws ∈ commands shHeader, ∀ σ, (host ws σ).1 = σ

/-- A host as simple as the laws allow; its `rmi` removes whatever is there. -/
def plainHost : Host C := fun ws σ =>
  match ws with
  | ["buildah", "pull", s] =>
    match σ.published s with
    | some x => (hold σ s (some x), true)
    | none => (σ, false)
  | ["buildah", "tag", s, t] =>
    match σ.held s with
    | some x => (hold σ t (some x), true)
    | none => (σ, false)
  | ["buildah", "push", t] =>
    match σ.held t with
    | some x => (publish σ t (some x), true)
    | none => (σ, false)
  | ["buildah", "rmi", s, t] =>
    (hold (hold σ s none) t none, (σ.held s).isSome && (σ.held t).isSome)
  | _ => (σ, true)

theorem commands_shHeader : commands shHeader =
    [["apt", "install", "-y", "buildah"],
      ["buildah", "login", "-u", "\"$(cat", "container_username)\"", "--password-stdin", "<",
        "container_password", "\"https://registry.cn-shanghai.aliyuncs.com\""]] := by
  decide +kernel

theorem plainHost_laws : BuildahLaws (plainHost (C := C)) where
  pull_found σ s x h := by simp [plainHost, h]
  pull_missing σ s h := by simp [plainHost, h]
  tag_found σ s t x h := by simp [plainHost, h]
  tag_missing σ s t h := by simp [plainHost, h]
  push_found σ t x h := by simp [plainHost, h]
  push_missing σ t h := by simp [plainHost, h]
  rmi_published σ s t := by simp [plainHost]
  rmi_other σ s t n hs ht := by simp [plainHost, hs, ht]
  rmi_named σ s t n hn := by rcases hn with rfl | rfl <;> simp [plainHost]
  rmi_found σ s t n hn _ _ := by rcases hn with rfl | rfl <;> simp [plainHost]
  setup ws hws σ := by
    rw [commands_shHeader] at hws
    simp only [List.mem_cons, List.not_mem_nil, or_false] at hws
    rcases hws with rfl | rfl <;> simp [plainHost]

def isTransfer (ws : List String) : Bool :=
  ws.take 2 == ["buildah", "pull"] || ws.take 2 == ["buildah", "push"]

def shStep (host : Host C) (fails : ℕ → Bool) (i : ℕ) (ws : List String)
    (σ : Images String C) : Images String C × Bool :=
  if isTransfer ws && fails i then (σ, false) else host ws σ

/-- A shell without `set -e`, with the statuses of all commands. -/
def runScript (host : Host C) (fails : ℕ → Bool) (text : String) (σ : Images String C) :
    Images String C × List Bool :=
  run (shStep host fails) 0 (commands text) σ

def blockAt (fails : ℕ → Bool) (i : ℕ) (c : Copy String) : Block String :=
  { c with pullFails := fails i, pushFails := fails (i + 2) }

section Stages

variable (b : Block String) (σ : Images String C)

def afterTag : Images String C :=
  hold (hold σ b.source (atSource b σ)) b.target (offered b σ)

def pushed : Bool := !b.pushFails && (offered b σ).isSome

def afterPush : Images String C :=
  if pushed b σ then publish (afterTag b σ) b.target (offered b σ) else afterTag b σ

theorem afterPush_held : (afterPush b σ).held = (afterTag b σ).held := by
  rw [afterPush]
  split <;> rfl

theorem afterPush_published (n : String) :
    (afterPush b σ).published n =
      if n = b.target ∧ pushed b σ then offered b σ else σ.published n := by
  rw [afterPush]
  cases pushed b σ <;> simp [afterTag]

theorem afterPush_target : (afterPush b σ).held b.target = offered b σ := by
  simp [afterPush_held, afterTag]

theorem afterPush_other {n : String} (hs : n ≠ b.source) (ht : n ≠ b.target) :
    (afterPush b σ).held n = σ.held n := by
  simp [afterPush_held, afterTag, hs, ht]

/-- Naming a content after its own name changes nothing, so both cases agree. -/
theorem afterPush_source : (afterPush b σ).held b.source = atSource b σ := by
  by_cases hst : b.source = b.target
  · rw [hst, afterPush_target, offered, ← hst, atSource, Option.or_assoc, Option.or_self]
  · simp [afterPush_held, afterTag, hst]

end Stages

section Block

variable {host : Host C} (laws : BuildahLaws host) (fails : ℕ → Bool) (i : ℕ)
  (c : Copy String) (σ : Images String C)

include laws

theorem shStep_pull :
    shStep host fails i ["buildah", "pull", c.source] σ =
      (hold σ c.source (atSource (blockAt fails i c) σ),
        (pulled (blockAt fails i c) σ).isSome) := by
  have htransfer : isTransfer ["buildah", "pull", c.source] = true := rfl
  cases hf : fails i with
  | true => simp [shStep, htransfer, hf, atSource, pulled, blockAt, hold_self]
  | false =>
    cases hs : σ.published c.source with
    | some x =>
      simp [shStep, htransfer, hf, atSource, pulled, blockAt, hs, laws.pull_found _ _ _ hs]
    | none =>
      simp [shStep, htransfer, hf, atSource, pulled, blockAt, hs, laws.pull_missing _ _ hs,
        hold_self]

theorem shStep_tag :
    (shStep host fails i ["buildah", "tag", c.source, c.target] σ).1 =
      hold σ c.target ((σ.held c.source).or (σ.held c.target)) := by
  have htransfer : isTransfer ["buildah", "tag", c.source, c.target] = false := rfl
  cases hs : σ.held c.source with
  | some x => simp [shStep, htransfer, laws.tag_found _ _ _ _ hs]
  | none => simp [shStep, htransfer, laws.tag_missing _ _ _ hs, hold_self]

theorem shStep_push :
    shStep host fails i ["buildah", "push", c.target] σ =
      (if !fails i && (σ.held c.target).isSome then publish σ c.target (σ.held c.target) else σ,
        !fails i && (σ.held c.target).isSome) := by
  have htransfer : isTransfer ["buildah", "push", c.target] = true := rfl
  cases hf : fails i with
  | true => simp [shStep, htransfer, hf]
  | false =>
    cases ht : σ.held c.target with
    | some x => simp [shStep, htransfer, hf, laws.push_found _ _ _ ht]
    | none => simp [shStep, htransfer, hf, laws.push_missing _ _ ht]

theorem run_upToPush :
    ∃ tagOk, run (shStep host fails) i ((blockCommands c).take 3) σ =
      (afterPush (blockAt fails i c) σ,
        [(pulled (blockAt fails i c) σ).isSome, tagOk, pushed (blockAt fails i c) σ]) := by
  have hpull := shStep_pull laws fails i c σ
  have htag : (shStep host fails (i + 1) ["buildah", "tag", c.source, c.target]
      (hold σ c.source (atSource (blockAt fails i c) σ))).1 =
        afterTag (blockAt fails i c) σ := by
    rw [shStep_tag laws]
    by_cases hst : c.target = c.source
    · simp [afterTag, offered, atSource, blockAt, hst, Option.or_assoc]
    · simp [afterTag, offered, blockAt, hst]
  have hpush := shStep_push laws fails (i + 2) c (afterTag (blockAt fails i c) σ)
  have htarget : (afterTag (blockAt fails i c) σ).held c.target =
      offered (blockAt fails i c) σ := by simp [afterTag, blockAt]
  rw [htarget] at hpush
  refine ⟨(shStep host fails (i + 1) ["buildah", "tag", c.source, c.target]
    (hold σ c.source (atSource (blockAt fails i c) σ))).2, ?_⟩
  simp only [blockCommands, List.take_succ_cons, List.take_zero, run_cons, run_nil, hpull,
    htag, hpush]
  rfl

theorem effect_of_rmi (b : Block String) :
    Effect b σ ((pulled b σ).isSome, pushed b σ)
      (host ["buildah", "rmi", b.source, b.target] (afterPush b σ)).1 where
  pull_ok := rfl
  push_ok := rfl
  published_target := by
    rw [laws.rmi_published, afterPush_published]
    simp
  published_other n hn := by
    rw [laws.rmi_published, afterPush_published, if_neg (fun h => hn h.1)]
  held_source := by
    cases hat : atSource b σ with
    | some x =>
      apply laws.rmi_found _ _ _ _ (Or.inl rfl)
      · simp [afterPush_source, hat]
      · simp [afterPush_target, offered, hat]
    | none =>
      rcases laws.rmi_named (afterPush b σ) b.source b.target b.source (Or.inl rfl) with h | h
      · exact h
      · rw [h, afterPush_source, hat]
  held_target := by
    cases hat : atSource b σ with
    | some x =>
      refine Or.inl (laws.rmi_found _ _ _ _ (Or.inr rfl) ?_ ?_)
      · simp [afterPush_source, hat]
      · simp [afterPush_target, offered, hat]
    | none =>
      rcases laws.rmi_named (afterPush b σ) b.source b.target b.target (Or.inr rfl) with h | h
      · exact Or.inl h
      · refine Or.inr ⟨rfl, ?_⟩
        rw [h, afterPush_target, offered, hat, Option.none_or]
  held_other n hs ht := by
    rw [laws.rmi_other _ _ _ _ hs ht, afterPush_other b σ hs ht]

theorem run_blockCommands :
    ∃ (pullOk tagOk pushOk rmiOk : Bool),
      (run (shStep host fails) i (blockCommands c) σ).2 = [pullOk, tagOk, pushOk, rmiOk] ∧
      Effect (blockAt fails i c) σ (pullOk, pushOk)
        (run (shStep host fails) i (blockCommands c) σ).1 := by
  obtain ⟨tagOk, hthree⟩ := run_upToPush laws fails i c σ
  have hrmi : isTransfer ["buildah", "rmi", c.source, c.target] = false := rfl
  have hsplit : blockCommands c =
      (blockCommands c).take 3 ++ [["buildah", "rmi", c.source, c.target]] := rfl
  rw [hsplit, run_append, hthree]
  refine ⟨_, tagOk, _, _, rfl, ?_⟩
  simp only [run_cons, run_nil, shStep, hrmi, Bool.false_and, Bool.false_eq_true, if_false]
  exact effect_of_rmi laws σ (blockAt fails i c)

end Block

/-- The copies of a script with the failures that hit their blocks, the first block
starting at position `i`. -/
def blocksFrom (fails : ℕ → Bool) : ℕ → List (Copy String) → List (Block String)
  | _, [] => []
  | i, c :: cs => blockAt fails i c :: blocksFrom fails (i + 4) cs

@[simp] theorem map_blocksFrom (fails : ℕ → Bool) (i : ℕ) (cs : List (Copy String)) :
    (blocksFrom fails i cs).map Block.toCopy = cs := by
  induction cs generalizing i with
  | nil => rfl
  | cons c cs ih =>
    rw [blocksFrom, List.map_cons, ih]
    rfl

@[simp] theorem length_blocksFrom (fails : ℕ → Bool) (i : ℕ) (cs : List (Copy String)) :
    (blocksFrom fails i cs).length = cs.length := by
  rw [← List.length_map (f := Block.toCopy), map_blocksFrom]

theorem blocksFrom_append (fails : ℕ → Bool) (i : ℕ) (cs ds : List (Copy String)) :
    blocksFrom fails i (cs ++ ds) =
      blocksFrom fails i cs ++ blocksFrom fails (i + 4 * cs.length) ds := by
  induction cs generalizing i with
  | nil => simp [blocksFrom]
  | cons c cs ih =>
    have hi : i + 4 + 4 * cs.length = i + 4 * (cs.length + 1) := by omega
    simp only [List.cons_append, blocksFrom, ih, List.length_cons, hi]

theorem run_flatMap_blockCommands {host : Host C} (laws : BuildahLaws host)
    (fails : ℕ → Bool) (i : ℕ) (cs : List (Copy String)) (σ : Images String C) :
    ∃ oks, Runs (blocksFrom fails i cs) σ oks
        (run (shStep host fails) i (cs.flatMap blockCommands) σ).1 ∧
      ∀ k pullOk pushOk,
        (run (shStep host fails) i (cs.flatMap blockCommands) σ).2[4 * k]? = some pullOk →
        (run (shStep host fails) i (cs.flatMap blockCommands) σ).2[4 * k + 2]? = some pushOk →
        oks[k]? = some (pullOk, pushOk) := by
  induction cs generalizing i σ with
  | nil => exact ⟨[], .nil σ, by simp⟩
  | cons c cs ih =>
    obtain ⟨pullOk, tagOk, pushOk, rmiOk, hstatus, heff⟩ := run_blockCommands laws fails i c σ
    obtain ⟨oks, hruns, hoks⟩ :=
      ih (i + 4) (run (shStep host fails) i (blockCommands c) σ).1
    have hlen : (blockCommands c).length = 4 := rfl
    rw [List.flatMap_cons, run_append, hlen, hstatus]
    refine ⟨(pullOk, pushOk) :: oks, .cons heff hruns, ?_⟩
    intro k p q hp hq
    cases k with
    | zero =>
      simp only [Nat.mul_zero, Nat.zero_add, List.cons_append, List.getElem?_cons_zero,
        List.getElem?_cons_succ, Option.some.injEq] at hp hq
      rw [List.getElem?_cons_zero, hp, hq]
    | succ k =>
      have hk : 4 * (k + 1) = 4 * k + 4 := by omega
      have hk' : 4 * (k + 1) + 2 = (4 * k + 2) + 4 := by omega
      rw [hk] at hp
      rw [hk'] at hq
      simp only [List.cons_append, List.nil_append, List.getElem?_cons_succ] at hp hq
      rw [List.getElem?_cons_succ]
      exact hoks k p q hp hq

def firstBlock : ℕ := (commands shHeader).length

theorem runScript_eq {host : Host C} (laws : BuildahLaws host) (fails : ℕ → Bool)
    (ord : RangeOrder) (files : List Mapping) (σ : Images String C)
    (hwords : ∀ iF ∈ emitted ord 0 files, IsWord (copyOf iF).source ∧ IsWord (copyOf iF).target) :
    ∃ setup, setup.length = firstBlock ∧
      runScript host fails (shScript ord files) σ =
        ((run (shStep host fails) firstBlock
            (((emitted ord 0 files).map copyOf).flatMap blockCommands) σ).1,
          setup ++ (run (shStep host fails) firstBlock
            (((emitted ord 0 files).map copyOf).flatMap blockCommands) σ).2) := by
  have hinert : ∀ j, ∀ ws ∈ commands shHeader, (shStep host fails j ws σ).1 = σ := by
    intro j ws hws
    rw [shStep]
    split
    · rfl
    · exact laws.setup ws hws σ
  refine ⟨(run (shStep host fails) 0 (commands shHeader) σ).2, run_length _ _ _ _, ?_⟩
  rw [runScript, shScript_eq, commands_shHeader_append, commands_blocks _ hwords, run_append,
    run_inert _ _ _ _ hinert, Nat.zero_add]
  rfl

theorem getElem?_append_add {α : Type*} {xs : List α} {n : ℕ} (h : xs.length = n)
    (ys : List α) (k : ℕ) : (xs ++ ys)[n + k]? = ys[k]? := by
  rw [← h, List.getElem?_append_right (Nat.le_add_right _ _), Nat.add_sub_cancel_left]

/-- The script refines the run of the copy blocks of its entries. -/
theorem runScript_runs {host : Host C} (laws : BuildahLaws host) (fails : ℕ → Bool)
    (ord : RangeOrder) (files : List Mapping) (σ : Images String C)
    (hwords : ∀ iF ∈ emitted ord 0 files, IsWord (copyOf iF).source ∧ IsWord (copyOf iF).target) :
    ∃ oks, Runs (blocksFrom fails firstBlock ((emitted ord 0 files).map copyOf)) σ oks
        (runScript host fails (shScript ord files) σ).1 ∧
      ∀ k pullOk pushOk,
        (runScript host fails (shScript ord files) σ).2[firstBlock + 4 * k]? = some pullOk →
        (runScript host fails (shScript ord files) σ).2[firstBlock + 4 * k + 2]? = some pushOk →
        oks[k]? = some (pullOk, pushOk) := by
  obtain ⟨setup, hlen, hrun⟩ := runScript_eq laws fails ord files σ hwords
  obtain ⟨oks, hruns, hoks⟩ := run_flatMap_blockCommands laws fails firstBlock
    ((emitted ord 0 files).map copyOf) σ
  rw [hrun]
  refine ⟨oks, hruns, ?_⟩
  intro k p q hp hq
  rw [getElem?_append_add hlen] at hp
  rw [Nat.add_assoc, getElem?_append_add hlen] at hq
  exact hoks k p q hp hq

end MigrateImageRepository.Buildah
