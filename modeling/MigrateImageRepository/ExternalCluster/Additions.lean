import MigrateImageRepository.ExternalCluster.ClusterImport

/-! What a program leaves behind that only adds objects.
Each command of an import provides some objects: where its values are plain, it has them
created or found if it ends well, and it never adds others. Programs that run one after the
other provide the objects of both. -/

namespace MigrateImageRepository.ExternalCluster.Additions
open Dialogue Dialogue.Prog ClusterImport Manifests

/-- Only these objects were added, and only where there was none. -/
def Added (objs : List Object) (os os' : Objects) : Prop :=
  ∀ ref, os' ref = os ref ∨
    os ref = none ∧ ∃ obj ∈ objs, obj.ref = ref ∧ os' ref = some obj.fields

def Present (objs : List Object) (os : Objects) : Prop := ∀ obj ∈ objs, (os obj.ref).isSome

theorem present_singleton {obj : Object} {os : Objects} :
    Present [obj] os ↔ (os obj.ref).isSome := List.forall_mem_singleton

theorem Added.refl (objs : List Object) (os : Objects) : Added objs os os := fun _ => Or.inl rfl

theorem Added.some {objs : List Object} {os os' : Objects} (h : Added objs os os') {ref : Ref}
    {fields : List (String × String)} (hsome : os ref = some fields) : os' ref = some fields := by
  rcases h ref with hsame | ⟨hnone, -⟩
  · rw [hsame, hsome]
  · rw [hnone] at hsome
    cases hsome

theorem Added.isSome {objs : List Object} {os os' : Objects} (h : Added objs os os') {ref : Ref}
    (hsome : (os ref).isSome) : (os' ref).isSome := by
  obtain ⟨fields, hfields⟩ := Option.isSome_iff_exists.mp hsome
  rw [h.some hfields, Option.isSome_some]

theorem Added.mono {objs objs' : List Object} {os os' : Objects} (h : Added objs os os')
    (hsub : objs ⊆ objs') : Added objs' os os' := by
  intro ref
  rcases h ref with hsame | ⟨hnone, obj, hobj, hadded⟩
  · exact Or.inl hsame
  · exact Or.inr ⟨hnone, obj, hsub hobj, hadded⟩

theorem Added.append {objs objs' : List Object} {os os' os'' : Objects} (h : Added objs os os')
    (h' : Added objs' os' os'') : Added (objs ++ objs') os os'' := by
  intro ref
  rcases h' ref with hsame | ⟨hnone, obj, hobj, hadded⟩
  · rw [hsame]
    exact h.mono (List.subset_append_left objs objs') ref
  · rcases h ref with hsame | ⟨-, obj', -, -, hsome⟩
    · exact Or.inr ⟨hsame ▸ hnone, obj, List.mem_append_right objs hobj, hadded⟩
    · rw [hnone] at hsome
      cases hsome

theorem Present.added {objs objs' : List Object} {os os' : Objects} (h : Present objs os)
    (hadded : Added objs' os os') : Present objs os' :=
  fun obj hobj => hadded.isSome (h obj hobj)

section Provides

variable {σ : Type} (party : Party KubeOp KubeReply σ) (objects : σ → Objects) (plain : Prop)

/-- A program that ends well has these objects created or found, and never adds others. This
is only said for plain values. -/
def Provides {α : Type} (d : Importer α) (objs : List Object) : Prop :=
  ∀ os, Leads party objects d os (fun _ os' => plain → Added objs os os' ∧ Present objs os')
    (fun os' => plain → Added objs os os')

def Stops {α : Type} (d : Importer α) (objs : List Object) : Prop :=
  ∀ os, Leads party objects d os (fun _ _ => False) (fun os' => plain → Added objs os os')

variable {party objects plain}

theorem provides_pure {α : Type} (a : α) : Provides party objects plain (pure a) [] :=
  fun os => leads_pure fun _ => ⟨Added.refl [] os, fun _ h => absurd h List.not_mem_nil⟩

theorem provides_fail {α : Type} (halt : Halt) (objs : List Object) :
    Provides party objects plain (fail halt : Importer α) objs :=
  fun os => leads_fail fun _ => Added.refl objs os

theorem Provides.bind {α β : Type} {d : Importer α} {f : α → Importer β}
    {objs objs' : List Object} (h : Provides party objects plain d objs)
    (hf : ∀ a, Provides party objects plain (f a) objs') :
    Provides party objects plain (d >>= f) (objs ++ objs') := by
  intro os
  have hleft := List.subset_append_left objs objs'
  refine ((h os).mono (fun _ _ h => h) (fun _ h hplain => (h hplain).mono hleft)).bind ?_
  intro a os₁ hfirst
  refine (hf a os₁).mono ?_ (fun _ h' hplain => (hfirst hplain).1.append (h' hplain))
  intro b os₂ hsecond hplain
  obtain ⟨hadded, hpresent⟩ := hfirst hplain
  obtain ⟨hadded', hpresent'⟩ := hsecond hplain
  exact ⟨hadded.append hadded', List.forall_mem_append.mpr ⟨hpresent.added hadded', hpresent'⟩⟩

theorem Provides.stops_bind {α β : Type} {d : Importer α} {f : α → Importer β}
    {objs objs' : List Object} (h : Provides party objects plain d objs)
    (hf : ∀ a, Stops party objects plain (f a) objs') :
    Stops party objects plain (d >>= f) (objs ++ objs') := by
  intro os
  have hleft := List.subset_append_left objs objs'
  refine ((h os).mono (fun _ _ h => h) (fun _ h hplain => (h hplain).mono hleft)).bind ?_
  intro a os₁ hfirst
  exact (hf a os₁).mono (fun _ _ h => h)
    (fun _ h' hplain => (hfirst hplain).1.append (h' hplain))

theorem Stops.bind {α β : Type} {d : Importer α} {f : α → Importer β} {objs : List Object}
    (h : Stops party objects plain d objs) : Stops party objects plain (d >>= f) objs :=
  fun os => (h os).bind fun _ _ hfalse => hfalse.elim

theorem Stops.mono {α : Type} {d : Importer α} {objs objs' : List Object}
    (h : Stops party objects plain d objs) (hsub : objs ⊆ objs') :
    Stops party objects plain d objs' :=
  fun os => (h os).mono (fun _ _ h => h) (fun _ h hplain => (h hplain).mono hsub)

theorem Stops.provides {α : Type} {d : Importer α} {objs : List Object}
    (h : Stops party objects plain d objs) : Provides party objects plain d objs :=
  fun os => (h os).mono (fun _ _ hfalse => hfalse.elim) (fun _ h => h)

theorem Provides.added_of_run {α : Type} {d : Importer α} {objs : List Object}
    (h : Provides party objects plain d objs) (hplain : plain) (s : σ) :
    Added objs (objects s) (objects (d.run party s).2) :=
  Ends.state (I := fun s' => Added objs (objects s) (objects s'))
    ((h _ s rfl).mono (fun _ _ h => (h hplain).1) (fun _ _ h => h hplain))

theorem provides_quiet (laws : KubeLaws party objects) {op : KubeOp}
    (hop : addsObject op = false) : Provides party objects plain (ask op) [] := by
  rintro _ s rfl
  rw [ends_ask, laws.same_objects op s hop]
  exact fun _ => ⟨Added.refl [] _, fun _ h => absurd h List.not_mem_nil⟩

theorem provides_orHalt (ok : Bool) : Provides party objects plain (orHalt ok) [] := by
  cases ok with
  | true => exact provides_pure ()
  | false => exact provides_fail _ []

theorem provides_refuse (laws : KubeLaws party objects) (msg : String) :
    Provides party objects plain (refuse msg) [] :=
  (provides_quiet laws rfl).bind (fun _ => provides_fail _ [])

theorem added_of_create (laws : KubeLaws party objects) {src : Source} (hplain : src.Plain)
    (s : σ) : Added [src.asWritten] (objects s) (objects (party (.create src) s).2) := by
  rcases laws.create_changed src s hplain with hsame | ⟨hnone, hcreated⟩
  · rw [hsame]
    exact Added.refl _ _
  · rw [hcreated]
    intro ref
    by_cases href : ref = src.asWritten.ref
    · subst href
      exact Or.inr ⟨hnone, _, List.mem_singleton_self _, rfl, Function.update_self ..⟩
    · exact Or.inl (Function.update_of_ne href ..)

theorem provides_createUnlessFound (laws : KubeLaws party objects) {src : Source}
    (hplain : plain → src.Plain) (existing : String) :
    Provides party objects plain (createUnlessFound src existing) [src.asWritten] := by
  rintro _ s rfl
  have hget := laws.same_objects (.get src.asWritten.ref) s rfl
  rw [createUnlessFound, ends_bind, ends_ask]
  cases hfound : (party (.get src.asWritten.ref) s).1 with
  | true =>
    rw [if_pos rfl, ends_ask, laws.same_objects _ _ rfl, hget]
    exact fun hp => ⟨Added.refl _ _,
      present_singleton.mpr (laws.get_found _ s (hplain hp).ref hfound)⟩
  | false =>
    rw [if_neg Bool.false_ne_true, ends_bind, ends_ask]
    generalize (party (.get src.asWritten.ref) s).2 = s₁ at hget
    rw [← hget]
    cases hcreated : (party (.create src) s₁).1 with
    | true =>
      rw [orHalt, if_pos rfl, ends_pure]
      exact fun hp => ⟨added_of_create laws (hplain hp) s₁,
        present_singleton.mpr (laws.create_done src s₁ (hplain hp) hcreated)⟩
    | false =>
      rw [orHalt, if_neg Bool.false_ne_true, ends_fail]
      exact fun hp => added_of_create laws (hplain hp) s₁

theorem provides_ite {α : Type} {c : Prop} [Decidable c] {d d' : Importer α}
    {objs objs' : List Object} (h : c → Provides party objects plain d objs)
    (h' : ¬ c → Provides party objects plain d' objs') :
    Provides party objects plain (if c then d else d') (if c then objs else objs') := by
  split
  · exact h ‹_›
  · exact h' ‹_›

end Provides

end MigrateImageRepository.ExternalCluster.Additions
