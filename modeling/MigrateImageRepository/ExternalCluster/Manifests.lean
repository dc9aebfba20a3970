import Mathlib.Data.Nat.Notation

/-! How an object reaches Kubernetes: as words of a `kubectl` command, or as a manifest, in
which values stand bare or in quotes. YAML reads plain values as they are written. What it
makes of any other text (a number, a comment, a second document) is left open here. -/

namespace MigrateImageRepository.ExternalCluster.Manifests

/-- What `kubectl get` names. Objects outside of namespaces have an empty one. -/
structure Ref where
  kind : String
  namespaceName : String
  name : String
deriving DecidableEq

structure Object where
  ref : Ref
  fields : List (String × String)
deriving DecidableEq

section Texts

def yamlChar (ch : Char) : Bool :=
  ch.isAlphanum || ch == '.' || ch == '_' || ch == '-' || ch == '/' || ch == ','

/-- A word that no command reads as an option. -/
def plainWord (text : String) : Bool :=
  text.toList.head?.any Char.isAlpha && text.toList.all yamlChar

def yamlWords : List String := ["y", "n", "yes", "no", "on", "off", "true", "false", "null"]

/-- A text that is the same text without quotes. -/
def plainScalar (text : String) : Bool :=
  plainWord text && !(yamlWords.map String.toList).contains (text.toList.map Char.toLower)

def quotable (text : String) : Bool := text.toList.all yamlChar

theorem plainWord_of_plainScalar {text : String} (h : plainScalar text = true) :
    plainWord text = true := by
  rw [plainScalar, Bool.and_eq_true] at h
  exact h.1

theorem plainWord_append {front text : String} (hfront : plainWord front = true)
    (htext : quotable text = true) : plainWord (front ++ text) = true := by
  rw [plainWord, Bool.and_eq_true] at hfront ⊢
  obtain ⟨hhead, hall⟩ := hfront
  rw [String.toList_append, List.all_append, hall, Bool.true_and]
  refine ⟨?_, htext⟩
  cases hchars : front.toList with
  | nil => rw [hchars] at hhead; cases hhead
  | cons ch chars => rw [hchars] at hhead; exact hhead

def validName (limit : ℕ) (name : String) : Bool :=
  name.toList.length ≤ limit &&
    name.toList.all (fun ch => ch.isLower || ch.isDigit || ch == '-') &&
    name.toList.head?.any (· != '-') && name.toList.getLast?.any (· != '-')

example : plainScalar "rook-ceph-external" = true ∧ plainScalar "pool #1" = false ∧
    plainScalar "123" = false ∧ plainScalar "a: b" = false ∧ plainScalar "Null" = false := by
  decide +kernel

end Texts

def Ref.Plain (ref : Ref) : Prop :=
  (ref.namespaceName = "" ∨ plainWord ref.namespaceName = true) ∧ plainWord ref.name = true

instance (ref : Ref) : Decidable ref.Plain := inferInstanceAs (Decidable (_ ∧ _))

/-- The limits are those for labels and for names of subdomains. -/
def Ref.Valid (ref : Ref) : Prop :=
  (ref.namespaceName = "" ∨ validName 63 ref.namespaceName = true) ∧
    validName (if ref.kind = "Namespace" then 63 else 253) ref.name = true

theorem Ref.Valid.of_kind {ref : Ref} (hkind : ref.kind ≠ "Namespace")
    (hns : ref.namespaceName = "" ∨ validName 63 ref.namespaceName = true)
    (hname : validName 253 ref.name = true) : ref.Valid := by
  refine ⟨hns, ?_⟩
  rw [if_neg hkind]
  exact hname

/-- A value in a manifest: a constant of the script, or a variable with or without quotes. -/
inductive Scalar where
  | constant (text : String)
  | bare (text : String)
  | quoted (text : String)

namespace Scalar

def text : Scalar → String
  | constant text => text
  | bare text => text
  | quoted text => text

def Plain : Scalar → Prop
  | constant _ => True
  | bare text => plainScalar text = true
  | quoted text => quotable text = true

instance : DecidablePred Plain
  | constant _ => isTrue trivial
  | bare text => inferInstanceAs (Decidable (plainScalar text = true))
  | quoted text => inferInstanceAs (Decidable (quotable text = true))

end Scalar

structure Manifest where
  kind : String
  namespaceName : Scalar
  name : Scalar
  fields : List (String × Scalar)

namespace Manifest

/-- The object that YAML reads where every value is plain. -/
def asWritten (m : Manifest) : Object :=
  ⟨⟨m.kind, m.namespaceName.text, m.name.text⟩,
    m.fields.map (fun field => (field.1, field.2.text))⟩

def Plain (m : Manifest) : Prop :=
  m.namespaceName.Plain ∧ m.name.Plain ∧ ∀ field ∈ m.fields, field.2.Plain

instance (m : Manifest) : Decidable m.Plain := inferInstanceAs (Decidable (_ ∧ _ ∧ _))

end Manifest

inductive Source where
  | command (obj : Object)
  | manifest (m : Manifest)

namespace Source

def asWritten : Source → Object
  | command obj => obj
  | manifest m => m.asWritten

def Plain : Source → Prop
  | command obj => obj.ref.Plain
  | manifest m => m.asWritten.ref.Plain ∧ m.Plain

instance : DecidablePred Plain
  | command obj => inferInstanceAs (Decidable obj.ref.Plain)
  | manifest m => inferInstanceAs (Decidable (m.asWritten.ref.Plain ∧ m.Plain))

theorem Plain.ref {src : Source} (h : src.Plain) : src.asWritten.ref.Plain := by
  cases src with
  | command obj => exact h
  | manifest m => exact h.1

end Source

end MigrateImageRepository.ExternalCluster.Manifests
