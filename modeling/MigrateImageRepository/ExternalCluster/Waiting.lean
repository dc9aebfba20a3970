import MigrateImageRepository.ExternalCluster.ClusterImport

/-! The command that waits for a RADOS namespace or a subvolume group. It is no complete
script, as the quotes inside of it end those around it, and `sh` refuses it. -/

namespace MigrateImageRepository.ExternalCluster.Waiting
open Dialogue Dialogue.Prog ClusterImport Manifests Rows

/-- The script of `waitWords`: it ends where the message in it begins. -/
@[irreducible] def waitScript (digits : List Char) : List Char :=
  "until [ ".toList ++ (digits ++ " -eq 1 ]; do echo waiting".toList)

theorem waitScript_unfinished {digits : List Char} (h : ∀ ch ∈ digits, ch.isDigit = true) :
    Unfinished (waitScript digits) where
  begun := by
    have hstart : "until [ ".toList = "until ".toList ++ "[ ".toList := by decide +kernel
    unfold waitScript
    rw [hstart, List.append_assoc]
    exact List.prefix_append "until ".toList _
  open_end := by
    intro hdone
    -- the number has only digits, and without it the text is known
    have hfilter := List.IsInfix.filter (fun ch : Char => !ch.isDigit) hdone
    have hdigits : digits.filter (fun ch => !ch.isDigit) = [] := by
      rw [List.filter_eq_nil_iff]
      intro ch hch
      simp [h ch hch]
    unfold waitScript at hfilter
    rw [List.filter_append, List.filter_append, hdigits, List.nil_append,
      ← List.filter_append] at hfilter
    revert hfilter
    decide +kernel

theorem digits_of_toString (count : ℕ) : ∀ ch ∈ (toString count).toList, ch.isDigit = true := by
  intro ch hch
  have hdigits : (toString count).toList = Nat.toDigits 10 count := by simp
  rw [hdigits] at hch
  exact Nat.isDigit_of_mem_toDigits (by decide) (by decide) hch

theorem snd_of_quoted {text : String} {ch : Char × Bool} (h : ch ∈ quoted text) :
    ch.2 = true := by
  obtain ⟨_, -, rfl⟩ := List.mem_map.mp h
  rfl

@[simp] theorem map_fst_quoted (text : String) : (quoted text).map Prod.fst = text.toList := by
  simp [quoted, Function.comp_def]

@[simp] theorem map_fst_bare (text : String) : (bare text).map Prod.fst = text.toList := by
  simp [bare, Function.comp_def]

theorem shellWords_append {front : List (Char × Bool)} (hfront : ∀ ch ∈ front, ch.2 = true)
    (word : String) (hne : word ≠ "") (hword : ' ' ∉ word.toList) (rest : List (Char × Bool)) :
    shellWords (front ++ bare word ++ (' ', false) :: rest) =
      (front.map Prod.fst ++ word.toList) :: shellWords rest := by
  have hfield : IsField (fun _ => false) (fun ch : Char × Bool => ch.1 == ' ' && !ch.2)
      (front ++ bare word) := by
    refine ⟨by simp [bare, hne], fun ch hch => ⟨?_, rfl⟩⟩
    rcases List.mem_append.mp hch with hch | hch
    · simp [hfront ch hch]
    · obtain ⟨c, hc, rfl⟩ := List.mem_map.mp hch
      have hspace : c ≠ ' ' := fun heq => hword (heq ▸ hc)
      simp [hspace]
  rw [shellWords, shellWords, fields_append_cons _ _ _ rfl, fields_single hfield]
  simp

theorem waitWords_eq (count : ℕ) :
    ∃ args, waitWords count = waitScript (toString count).toList :: args := by
  have hbare : bare "waiting for radosNamespace to get created" =
      bare "waiting" ++ (' ', false) :: bare "for radosNamespace to get created" := by
    decide +kernel
  have hend : " -eq 1 ]; do echo waiting".toList =
      " -eq 1 ]; do echo ".toList ++ "waiting".toList := by decide +kernel
  have hfront : ∀ ch ∈ quoted "until [ " ++ quoted (toString count) ++
      quoted " -eq 1 ]; do echo ", ch.2 = true := by
    intro ch hch
    simp only [List.mem_append] at hch
    rcases hch with (hch | hch) | hch <;> exact snd_of_quoted hch
  have hwords := shellWords_append hfront "waiting" (by decide) (by decide +kernel)
    (bare "for radosNamespace to get created" ++ quoted " && sleep 1; done")
  refine ⟨shellWords (bare "for radosNamespace to get created" ++ quoted " && sleep 1; done"), ?_⟩
  unfold waitWords waitScript
  rw [hbare, hend]
  simpa only [List.append_assoc, List.cons_append, List.map_append, map_fst_quoted] using hwords

theorem leads_waitReady {σ : Type} {party : Party KubeOp KubeReply σ} {objects : σ → Objects}
    (laws : KubeLaws party objects) (hsh : ShNeedsDone party) (ref : Ref) (os : Objects) :
    Leads party objects (waitReady ref) os (fun _ _ => False) (fun os' => os' = os) := by
  rintro s rfl
  obtain ⟨args, hwords⟩ := waitWords_eq (readyCount (party (.phase ref) s).1)
  have hphase := laws.same_objects (.phase ref) s rfl
  rw [waitReady, ends_bind, ends_ask, ends_bind, ends_ask, hwords,
    hsh _ args _ (waitScript_unfinished (digits_of_toString _)), orHalt,
    if_neg Bool.false_ne_true, ends_fail, laws.same_objects _ _ rfl, hphase]

end MigrateImageRepository.ExternalCluster.Waiting
