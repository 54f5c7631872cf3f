import ClassRecovery.Proofs.Dump.Boundary
import ClassRecovery.Proofs.Dump.Initializer
import ClassRecovery.Proofs.Dump.Performing

/-!
# A run only adds

Nothing that a run has recovered is taken back: no step removes or reorders classes, methods,
properties, interfaces or global statements, and a class keeps its name (`Extends`). Every record
of a class that a step changes is changed by one of the functions below, so the fact is proved of
each of them, then of an action, a step and a run.
-/

set_option autoImplicit false

namespace ClassRecovery

/-! ## Classes -/

/-- The later record is of the same class and has all members and interfaces of the earlier one, in
the same order, before any others. -/
structure ClassDef.Extends (c later : ClassDef) : Prop where
  space : later.space = c.space
  name : later.name = c.name
  methods : c.methods <+: later.methods
  properties : c.properties <+: later.properties
  interfaces : c.interfaces <+: later.interfaces

namespace ClassDef.Extends

variable {c d e : ClassDef}

theorem refl (c : ClassDef) : c.Extends c :=
  ⟨rfl, rfl, List.prefix_rfl, List.prefix_rfl, List.prefix_rfl⟩

theorem trans (h : c.Extends d) (k : d.Extends e) : c.Extends e where
  space := k.space.trans h.space
  name := k.name.trans h.name
  methods := h.methods.trans k.methods
  properties := h.properties.trans k.properties
  interfaces := h.interfaces.trans k.interfaces

theorem qualifiedName_eq (h : c.Extends d) : d.qualifiedName = c.qualifiedName := by
  simp only [ClassDef.qualifiedName, h.space, h.name]

theorem memberKey_eq (h : c.Extends d) (member : String) :
    d.memberKey member = c.memberKey member := by
  simp only [ClassDef.memberKey, h.qualifiedName_eq]

end ClassDef.Extends

namespace Dump

variable (cleaner : Cleaner) (ignore : IgnoreList) (c : ClassDef)

theorem constructed_extends (varId params : String) (body : List String) :
    c.Extends (constructed cleaner c varId params body) :=
  ⟨rfl, rfl, List.prefix_append _ _, List.prefix_rfl, List.prefix_rfl⟩

theorem addStaticMethod_extends (member : String) (parts : FunctionParts) :
    c.Extends (addStaticMethod ignore cleaner member parts c) := by
  unfold addStaticMethod
  split
  · exact .refl c
  · exact ⟨rfl, rfl, List.prefix_append _ _, List.prefix_rfl, List.prefix_rfl⟩

theorem addMembers_extends (members : List Member) :
    c.Extends (addMembers ignore cleaner members c) :=
  ⟨rfl, rfl, List.prefix_append _ _, List.prefix_append _ _, List.prefix_rfl⟩

theorem trailer_extends (trailer : Trailer) : c.Extends (trailer.apply c) := by
  cases trailer with
  | empty | base => exact ⟨rfl, rfl, List.prefix_rfl, List.prefix_rfl, List.prefix_rfl⟩
  | interfaces | baseAndInterfaces =>
      exact ⟨rfl, rfl, List.prefix_rfl, List.prefix_rfl, List.prefix_append _ _⟩

theorem bulkChange_extends (change : BulkChange) :
    c.Extends (change.apply ignore cleaner c) := by
  cases change with
  | classMembers members trailer =>
      exact (addMembers_extends cleaner ignore c members).trans (trailer_extends _ trailer)
  | interfaceMembers members bases =>
      exact (addMembers_extends cleaner ignore c members).trans
        ⟨rfl, rfl, List.prefix_rfl, List.prefix_rfl, List.prefix_append _ _⟩
  | enumMembers members flags =>
      exact (addMembers_extends cleaner ignore c members).trans
        ⟨rfl, rfl, List.prefix_rfl, List.prefix_rfl, List.prefix_rfl⟩
  | arity count => exact ⟨rfl, rfl, List.prefix_rfl, List.prefix_rfl, List.prefix_rfl⟩

theorem addProperty_extends (property : Property) : c.Extends (addProperty property c) :=
  ⟨rfl, rfl, List.prefix_rfl, List.prefix_append _ _, List.prefix_rfl⟩

end Dump

/-! ## Registries -/

/-- The later registry has all classes of the earlier one under the same handles. -/
def Registry.Extends (r later : Registry) : Prop :=
  ∀ id c, r.get? id = some c → ∃ d, later.get? id = some d ∧ c.Extends d

namespace Registry.Extends

variable {r s t : Registry}

theorem refl (r : Registry) : r.Extends r := fun _ c h => ⟨c, h, .refl c⟩

theorem trans (h : r.Extends s) (k : s.Extends t) : r.Extends t := by
  intro id c hc
  obtain ⟨d, hd, hcd⟩ := h id c hc
  obtain ⟨e, he, hde⟩ := k id d hd
  exact ⟨e, he, hcd.trans hde⟩

theorem modify (r : Registry) (id : Nat) {f : ClassDef → ClassDef}
    (hf : ∀ c, ClassDef.Extends c (f c)) : r.Extends (r.modify id f) := by
  intro place c hc
  rw [get?_modify, hc]
  by_cases hid : id = place
  · exact ⟨f c, by simp [hid], hf c⟩
  · exact ⟨c, by simp [hid], .refl c⟩

theorem append (r : Registry) (c : ClassDef) : r.Extends (r.append c) := by
  intro id d hd
  have hlt := get?_eq_some_lt hd
  exact ⟨d, by rw [get?_append, if_neg (by omega), hd], .refl d⟩

theorem rebind (r : Registry) (id : Nat) (varId : String) {f : ClassDef → ClassDef}
    (hf : ∀ c, ClassDef.Extends c (f c)) : r.Extends (r.rebind id varId f) :=
  modify r id hf

end Registry.Extends

/-! ## States -/

namespace Dump

/-- The later state has all global statements and all classes of the earlier one, in the same
order, before any others. -/
structure State.Extends (st later : State) : Prop where
  globals : st.globals <+: later.globals
  registry : st.registry.Extends later.registry

namespace State.Extends

variable {s t u : State}

theorem refl (s : State) : s.Extends s := ⟨List.prefix_rfl, .refl s.registry⟩

theorem trans (h : s.Extends t) (k : t.Extends u) : s.Extends u :=
  ⟨h.globals.trans k.globals, h.registry.trans k.registry⟩

theorem addGlobals (s : State) (lines : List String) : s.Extends (s.addGlobals lines) :=
  ⟨List.prefix_append _ _, .refl s.registry⟩

theorem modifyCurrent (s : State) {f : ClassDef → ClassDef}
    (hf : ∀ c, ClassDef.Extends c (f c)) : s.Extends (s.modifyCurrent f) := by
  unfold State.modifyCurrent
  split
  · exact .refl s
  · exact ⟨List.prefix_rfl, .refl _⟩
  · exact ⟨List.prefix_rfl, .refl _⟩
  · exact ⟨List.prefix_rfl, .modify s.registry _ hf⟩

end State.Extends

variable {cleaner : Cleaner} {st next : State}

/-! ## Actions, steps and runs -/

theorem declare_extends (registry : Registry) (line : String) :
    registry.Extends (declare registry line) := by
  unfold declare
  split
  · exact .modify _ _ fun c => addProperty_extends c _
  · exact .refl registry

theorem declareAll_extends (registry : Registry) (lines : List String) :
    registry.Extends (lines.foldl declare registry) := by
  induction lines generalizing registry with
  | nil => exact .refl registry
  | cons line rest ih => exact (declare_extends registry line).trans (ih _)

theorem constructs_extends {varId params : String} {body : List String}
    (h : Constructs cleaner varId params body st next) : st.Extends next := by
  cases h with
  | nothing => exact .refl st
  | detached => exact ⟨List.prefix_rfl, .refl _⟩
  | registered => exact ⟨List.prefix_rfl, .append _ _⟩
  | extended =>
      refine ⟨List.prefix_rfl, .rebind _ _ _ fun c => ?_⟩
      exact constructed_extends cleaner c varId params body

theorem perform_extends {action : Action} (h : perform cleaner st action = .ok next) :
    st.Extends next := by
  cases action with
  | nothing => cases h; exact .refl st
  | assignment line target value =>
      cases h
      unfold addGlobalAssignment
      split
      · exact .refl st
      · exact .addGlobals st _
  | block lines => cases h; exact .addGlobals st _
  | assembly | separator | className => cases h; exact ⟨List.prefix_rfl, .refl _⟩
  | constructor varId params body =>
      exact constructs_extends (performConstructor_constructs h)
  | staticMethod member parts =>
      cases h
      exact .modifyCurrent st fun c => addStaticMethod_extends cleaner st.ignore c member parts
  | staticProperty member value =>
      cases h
      refine .modifyCurrent st fun c => ?_
      split
      · exact .refl c
      · exact addProperty_extends c _
  | bulk varId change =>
      rcases perform_bulk_eq_ok_iff.mp h with ⟨-, rfl⟩ | ⟨id, bulk, -, -, rfl⟩
      · exact .refl _
      · exact ⟨List.prefix_rfl, .modify _ _ fun c => bulkChange_extends cleaner st.ignore c bulk⟩
  | initializer lines =>
      rw [perform_initializer_eq] at h
      cases h
      exact ⟨List.prefix_append _ _, declareAll_extends st.registry lines⟩

theorem step_extends {index read : Nat} {line : String} {rest : List String}
    (h : step cleaner st index line rest = .ok (next, read)) : st.Extends next := by
  obtain ⟨action, -, hperform⟩ := (step_eq_ok_iff cleaner st index line rest).mp h
  exact perform_extends hperform

/-- The end of a run has all that was recovered at any of its boundaries. -/
theorem Boundary.extends {start final : State} {lines : List String} {index : Nat}
    (h : Boundary cleaner start lines index st)
    (hrun : runFrom cleaner 0 0 start lines = .ok final) : st.Extends final :=
  h.induction_of_runFrom (P := fun _ st => st.Extends final) (fun _ => .refl final)
    (fun _ _ hstep hnext => (step_extends hstep).trans hnext) hrun

end Dump

end ClassRecovery
