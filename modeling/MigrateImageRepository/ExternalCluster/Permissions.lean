import MigrateImageRepository.FirstCome
import MigrateImageRepository.ItemText

/-! The text of a Ceph capability as a list of permissions.
`upgrade_user_permissions` cuts the old and the new text at the commas, keeps every
permission once, the old ones first, and writes the list with a comma and a space. On
the permissions this is a join of lists without repetitions. -/

namespace MigrateImageRepository.ExternalCluster.Permissions
open FirstCome ItemText

/-- What `str.strip` removes. -/
def isSpace (ch : Char) : Bool :=
  let n := ch.toNat
  (0x9 ≤ n && n ≤ 0xd) || (0x1c ≤ n && n ≤ 0x20) || n = 0x85 || n = 0xa0 || n = 0x1680 ||
    (0x2000 ≤ n && n ≤ 0x200a) || n = 0x2028 || n = 0x2029 || n = 0x202f || n = 0x205f ||
    n = 0x3000

def isComma (ch : Char) : Bool := ch == ','

/-- `[x.strip() for x in text.split(",") if x.strip()]` -/
def permList (text : String) : List (List Char) := items isSpace isComma text.toList

/-- `", ".join(perms)` -/
def permText (perms : List (List Char)) : String := String.ofList (joined ',' ' ' perms)

def mergeCaps (cur new : String) : String :=
  permText (addAll [] (permList cur ++ permList new))

def perms (text : String) : Distinct (List Char) := Distinct.ofList (permList text)

/-- A text as this program writes it: no permission twice, one comma and space between two. -/
def Written (text : String) : Prop := permText (perms text).toList = text

theorem permList_permText {ps : List (List Char)} (h : ∀ p ∈ ps, IsItem isSpace isComma p) :
    permList (permText ps) = ps := by
  rw [permList, permText, String.toList_ofList]
  exact items_joined rfl rfl rfl h

theorem isItem_of_mem_perms {text : String} {p : List Char} (h : p ∈ (perms text).toList) :
    IsItem isSpace isComma p :=
  isItem_of_mem_items (Distinct.mem_ofList.mp h)

theorem permText_perms (cur new : String) :
    permText (perms cur * perms new).toList = mergeCaps cur new := by
  rw [mergeCaps, perms, perms, ← Distinct.ofList_append]
  rfl

theorem perms_permText {a : Distinct (List Char)}
    (h : ∀ p ∈ a.toList, IsItem isSpace isComma p) : perms (permText a.toList) = a := by
  rw [perms, permList_permText h, Distinct.ofList_toList]

@[simp] theorem perms_mergeCaps (cur new : String) :
    perms (mergeCaps cur new) = perms cur * perms new := by
  rw [← permText_perms]
  apply perms_permText
  intro p hp
  exact (Distinct.mem_mul.mp hp).elim isItem_of_mem_perms isItem_of_mem_perms

theorem written_mergeCaps (cur new : String) : Written (mergeCaps cur new) := by
  rw [Written, perms_mergeCaps, permText_perms]

theorem mergeCaps_of_subset {cur new : String} (hw : Written cur)
    (h : (perms new).toList ⊆ (perms cur).toList) : mergeCaps cur new = cur := by
  rw [← permText_perms, Distinct.mul_eq_left h]
  exact hw

theorem mergeCaps_empty_empty : mergeCaps "" "" = "" := rfl

example : mergeCaps "allow r ,,allow r, allow w" "allow w, allow command 'osd blocklist'" =
    "allow r, allow w, allow command 'osd blocklist'" := by decide +kernel

end MigrateImageRepository.ExternalCluster.Permissions
