import MigrateImageRepository.Between
import MigrateImageRepository.ExternalCluster.Cluster
import MigrateImageRepository.ExternalCluster.Users

/-! The RGW pool prefix of an earlier export.
An upgrade without `--rgw-pool-prefix` prints the dictionary of capabilities that the
health checker has and searches the text for the prefix. For the capabilities that an
export gives to this user the search finds the prefix of that export. -/

namespace MigrateImageRepository.ExternalCluster.PoolPrefix
open Between Cluster Users

def hexDigits (width n : ℕ) : List Char := List.leftpad width '0' (Nat.toDigits 16 n)

section Repr

-- `str.isprintable` outside ASCII is a table that Python brings along
variable (printable : Char → Bool)

def reprChar (quote ch : Char) : List Char :=
  if ch = quote ∨ ch = '\\' then ['\\', ch]
  else if ch = '\n' then ['\\', 'n']
  else if ch = '\r' then ['\\', 'r']
  else if ch = '\t' then ['\\', 't']
  else if ch.toNat < 0x20 ∨ ch.toNat = 0x7f then '\\' :: 'x' :: hexDigits 2 ch.toNat
  else if ch.toNat < 0x7f ∨ printable ch then [ch]
  else if ch.toNat ≤ 0xff then '\\' :: 'x' :: hexDigits 2 ch.toNat
  else if ch.toNat ≤ 0xffff then '\\' :: 'u' :: hexDigits 4 ch.toNat
  else '\\' :: 'U' :: hexDigits 8 ch.toNat

/-- `repr` of a text: double quotes when only single ones occur in it. -/
def reprText (text : String) : List Char :=
  let quote := if '\'' ∈ text.toList ∧ '"' ∉ text.toList then '"' else '\''
  quote :: text.toList.flatMap (reprChar printable quote) ++ [quote]

def reprEntry (entry : Sigma fun _ : String => String) : List Char :=
  reprText printable entry.1 ++ ([':', ' '] ++ reprText printable entry.2)

def reprDict (caps : Dict) : List Char :=
  '{' :: [',', ' '].intercalate (caps.entries.map (reprEntry printable)) ++ ['}']

end Repr

/-- `re.search(r"pool=(.*?)\.rgw\.meta", caps)` -/
def searchPool (caps : List Char) : Option (List Char) :=
  between (· == '\n') "pool=".toList ".rgw.meta".toList caps

def PlainChar (ch : Char) : Prop :=
  0x20 ≤ ch.toNat ∧ ch.toNat < 0x7f ∧ ch ≠ '\'' ∧ ch ≠ '\\'

instance (ch : Char) : Decidable (PlainChar ch) := inferInstanceAs (Decidable (_ ∧ _))

def PlainText (text : List Char) : Prop := ∀ ch ∈ text, PlainChar ch

instance (text : List Char) : Decidable (PlainText text) :=
  decidable_of_iff (text.all (fun ch => PlainChar ch) = true)
    (by simp only [PlainText, List.all_eq_true, decide_eq_true_eq])

theorem plainText_append {xs ys : List Char} :
    PlainText (xs ++ ys) ↔ PlainText xs ∧ PlainText ys :=
  List.forall_mem_append

section Plain

variable {printable : Char → Bool}

theorem reprChar_plain {ch : Char} (h : PlainChar ch) : reprChar printable '\'' ch = [ch] := by
  obtain ⟨hlow, hhigh, hquote, hslash⟩ := h
  have hn : ch ≠ '\n' := by rintro rfl; exact absurd hlow (by decide)
  have hr : ch ≠ '\r' := by rintro rfl; exact absurd hlow (by decide)
  have ht : ch ≠ '\t' := by rintro rfl; exact absurd hlow (by decide)
  have hctrl : ¬ (ch.toNat < 0x20 ∨ ch.toNat = 0x7f) := by omega
  simp [reprChar, hquote, hslash, hn, hr, ht, hctrl, hhigh]

theorem reprText_plain {text : String} (h : PlainText text.toList) :
    reprText printable text = '\'' :: text.toList ++ ['\''] := by
  have hquote : '\'' ∉ text.toList := fun hmem => (h _ hmem).2.2.1 rfl
  have hcopy : text.toList.flatMap (reprChar printable '\'') = text.toList := by
    generalize text.toList = chars at h
    induction chars with
    | nil => rfl
    | cons ch chars ih =>
      rw [List.flatMap_cons, reprChar_plain (h ch List.mem_cons_self),
        ih (fun c hc => h c (List.mem_cons_of_mem ch hc)), List.singleton_append]
  rw [reprText, if_neg (fun hc => hquote hc.1)]
  simp only [hcopy]

end Plain

theorem intercalate_append_cons {α : Type*} (sep : List α) (front : List (List α))
    (x : List α) (back : List (List α)) :
    ∃ rest, sep.intercalate (front ++ x :: back) = front.flatMap (· ++ sep) ++ (x ++ rest) := by
  induction front with
  | nil =>
    cases back with
    | nil => exact ⟨[], by simp⟩
    | cons y back => exact ⟨sep ++ sep.intercalate (y :: back), by simp⟩
  | cons y front ih =>
    obtain ⟨rest, hrest⟩ := ih
    refine ⟨rest, ?_⟩
    rw [List.cons_append, List.intercalate_cons_of_ne_nil (by simp), hrest, List.flatMap_cons]
    simp

theorem borderless_rgwMeta : Borderless ".rgw.meta".toList := by
  have h : ∀ k < 9, 0 < k → ¬ ".rgw.meta".toList.drop k <+: ".rgw.meta".toList := by
    decide +kernel
  exact fun k hpos hlt => h k hlt hpos

/-- A prefix that the search cannot cut short and that is printed as it is. -/
structure PlainPrefix (rgwPool : String) : Prop where
  plain : PlainText rgwPool.toList
  no_meta : ¬ ".rgw.meta".toList <:+: rgwPool.toList

theorem searchPool_append {before : List Char} (hbefore : '=' ∉ before) {rgwPool : String}
    (h : PlainPrefix rgwPool) (rest : List Char) :
    searchPool (before ++ ("pool=".toList ++ (rgwPool.toList ++ (".rgw.meta".toList ++ rest)))) =
      some rgwPool.toList := by
  have hpool : "pool=".toList = "pool".toList ++ ['='] := by decide +kernel
  have hbreak : ∀ ch ∈ rgwPool.toList, (ch == '\n') = false := by
    intro ch hch
    rw [beq_eq_false_iff_ne]
    rintro rfl
    exact absurd (h.plain _ hch).1 (by decide)
  rw [searchPool, hpool]
  apply between_append (by decide +kernel) hbefore
  exact upTo_append borderless_rgwMeta (by decide +kernel) hbreak h.no_meta rest

def osdHead : String := "profile rbd-read-only, allow rwx "

@[irreducible] def osdTail (rgwPool : String) : String :=
  ", allow r pool=.rgw.root, allow rw pool=" ++ rgwPool ++ ".rgw.control, allow rx pool=" ++
    rgwPool ++ ".rgw.log, allow x pool=" ++ rgwPool ++ ".rgw.buckets.index"

@[irreducible] def osdCaps (rgwPool : String) : String :=
  "profile rbd-read-only, allow rwx pool=" ++ rgwPool ++
    ".rgw.meta, allow r pool=.rgw.root, allow rw pool=" ++ rgwPool ++
    ".rgw.control, allow rx pool=" ++ rgwPool ++
    ".rgw.log, allow x pool=" ++ rgwPool ++ ".rgw.buckets.index"

def checkerCaps (rgwPool : String) : Caps :=
  [("mon", "allow r, allow command quorum_status, allow command version"),
    ("mgr", "allow command config"), ("osd", osdCaps rgwPool)]

theorem getDefaultUserCapsAndEntity_eq (args : Args) :
    getDefaultUserCapsAndEntity args = .ok (checkerCaps args.rgwPoolPrefix, args.runAsUser) := by
  unfold getDefaultUserCapsAndEntity checkerCaps osdCaps
  with_reducible rfl

theorem toList_osdCaps (rgwPool : String) : (osdCaps rgwPool).toList =
    osdHead.toList ++ ("pool=".toList ++
      (rgwPool.toList ++ (".rgw.meta".toList ++ (osdTail rgwPool).toList))) := by
  have hhead : "profile rbd-read-only, allow rwx pool=".toList =
      osdHead.toList ++ "pool=".toList := by decide +kernel
  have hmeta : ".rgw.meta, allow r pool=.rgw.root, allow rw pool=".toList =
      ".rgw.meta".toList ++ ", allow r pool=.rgw.root, allow rw pool=".toList := by decide +kernel
  unfold osdCaps osdTail
  simp only [String.toList_append, hhead, hmeta, List.append_assoc]

theorem plain_osdCaps {rgwPool : String} (h : PlainText rgwPool.toList) :
    PlainText (osdCaps rgwPool).toList := by
  unfold osdCaps
  simp only [String.toList_append, plainText_append, h, and_true]
  decide +kernel

theorem no_equals_of_reprEntry {printable : Char → Bool} {rgwPool service text : String}
    (h : (service, text) ∈ checkerCaps rgwPool) (hne : service ≠ "osd") :
    '=' ∉ reprEntry printable ⟨service, text⟩ := by
  simp only [checkerCaps, List.mem_cons, Prod.mk.injEq, List.not_mem_nil, or_false] at h
  rcases h with ⟨rfl, rfl⟩ | ⟨rfl, rfl⟩ | ⟨rfl, -⟩
  · rw [reprEntry, reprText_plain (by decide +kernel), reprText_plain (by decide +kernel)]
    decide +kernel
  · rw [reprEntry, reprText_plain (by decide +kernel), reprText_plain (by decide +kernel)]
    decide +kernel
  · exact absurd rfl hne

theorem reprEntry_osd {printable : Char → Bool} {rgwPool : String}
    (h : PlainText rgwPool.toList) :
    reprEntry printable ⟨"osd", osdCaps rgwPool⟩ =
      "'osd': 'profile rbd-read-only, allow rwx ".toList ++ ("pool=".toList ++
        (rgwPool.toList ++ (".rgw.meta".toList ++ ((osdTail rgwPool).toList ++ ['\''])))) := by
  have hosd : reprText printable "osd" = '\'' :: "osd".toList ++ ['\''] :=
    reprText_plain (by decide +kernel)
  have hhead : "'osd': 'profile rbd-read-only, allow rwx ".toList =
      ('\'' :: "osd".toList ++ ['\'']) ++ ([':', ' '] ++ ('\'' :: osdHead.toList)) := by
    decide +kernel
  rw [reprEntry, hosd, reprText_plain (plain_osdCaps h), toList_osdCaps, hhead]
  simp only [List.cons_append, List.append_assoc]

/-- The search finds the prefix with which the health checker was created, in whatever
order the cluster lists its capabilities. -/
theorem searchPool_of_created (printable : Char → Bool) (args : Args)
    (hpoolPrefix : PlainPrefix args.rgwPoolPrefix) (newCap : Caps) (entity : String)
    (hnew : getDefaultUserCapsAndEntity args = .ok (newCap, entity)) (caps : Dict)
    (hcaps : ∀ service, caps.lookup service = newCap.lookup service) :
    searchPool (reprDict printable caps) = some args.rgwPoolPrefix.toList := by
  rw [getDefaultUserCapsAndEntity_eq, Except.ok.injEq, Prod.mk.injEq] at hnew
  obtain ⟨rfl, -⟩ := hnew
  have hosd : (⟨"osd", osdCaps args.rgwPoolPrefix⟩ : Sigma fun _ : String => String) ∈
      caps.entries := by
    rw [← AList.mem_lookup_iff, hcaps]
    rfl
  obtain ⟨front, back, hsplit⟩ := List.append_of_mem hosd
  have hnodup := caps.nodupKeys
  rw [hsplit, List.nodupKeys_middle, List.nodupKeys_cons] at hnodup
  have hfront : '=' ∉ front.flatMap (fun entry => reprEntry printable entry ++ [',', ' ']) := by
    rw [List.mem_flatMap]
    rintro ⟨⟨service, text⟩, hentry, hmem⟩
    have hentries : ⟨service, text⟩ ∈ caps.entries := by
      rw [hsplit]
      exact List.mem_append_left _ hentry
    have hlookup := AList.mem_lookup_iff.mpr hentries
    rw [hcaps, Option.mem_def, List.lookup_eq_some_iff] at hlookup
    obtain ⟨before, after, hpair, -⟩ := hlookup
    have hpair' : (service, text) ∈ checkerCaps args.rgwPoolPrefix := by
      rw [hpair]
      exact List.mem_append_right before List.mem_cons_self
    have hne : service ≠ "osd" := by
      rintro rfl
      have hkey : "osd" ∈ (front ++ back).keys :=
        List.mem_map_of_mem (f := Sigma.fst) (List.mem_append_left back hentry)
      exact hnodup.1 hkey
    rw [List.mem_append] at hmem
    exact hmem.elim (no_equals_of_reprEntry hpair' hne) (by decide)
  obtain ⟨rest, hrest⟩ := intercalate_append_cons [',', ' ']
    (front.map (reprEntry printable)) (reprEntry printable ⟨"osd", osdCaps args.rgwPoolPrefix⟩)
    (back.map (reprEntry printable))
  rw [reprDict, hsplit, List.map_append, List.map_cons, hrest, List.flatMap_map,
    reprEntry_osd hpoolPrefix.plain]
  have hbefore : '=' ∉ '{' :: (front.flatMap (fun entry =>
      reprEntry printable entry ++ [',', ' ']) ++
        "'osd': 'profile rbd-read-only, allow rwx ".toList) := by
    rw [List.mem_cons, List.mem_append]
    rintro (hbrace | hmem | hosd)
    · exact absurd hbrace (by decide)
    · exact hfront hmem
    · exact absurd hosd (by decide +kernel)
  have hsearch := searchPool_append hbefore hpoolPrefix
    ((osdTail args.rgwPoolPrefix).toList ++ ['\''] ++ rest ++ ['}'])
  rw [← hsearch]
  simp only [List.cons_append, List.append_assoc]

end MigrateImageRepository.ExternalCluster.PoolPrefix
