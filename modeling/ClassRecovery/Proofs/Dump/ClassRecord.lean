import ClassRecovery.Extraction
import ClassRecovery.Proofs.Dump.Boundary
import ClassRecovery.Proofs.Dump.Initializer
import ClassRecovery.Proofs.Dump.Performing

/-!
# What holds of every recovered class

A run changes the record of a class in few ways: a constructor, a static member, a bulk call or a line
of an initializer block adds to it. A property of classes that holds when a class is named and that
each of these changes keeps is a `ClassInvariant`, and it holds of every class that is recovered
(`ClassInvariant.recover`).
-/

set_option autoImplicit false

namespace ClassRecovery

variable {P : ClassDef → Prop}

/-! ## Registries -/

/-- The property holds of all classes of the registry. -/
def Registry.All (P : ClassDef → Prop) (r : Registry) : Prop := ∀ id c, r.get? id = some c → P c

namespace Registry.All

variable {r : Registry}

theorem modify (h : r.All P) (id : Nat) {f : ClassDef → ClassDef}
    (hf : ∀ c, r.get? id = some c → P c → P (f c)) : (r.modify id f).All P := by
  intro place d hd
  rw [get?_modify, Option.map_eq_some_iff] at hd
  obtain ⟨c, hc, rfl⟩ := hd
  split_ifs with hid
  · subst hid
    exact hf c hc (h _ c hc)
  · exact h place c hc

theorem append (h : r.All P) {c : ClassDef} (hc : P c) : (r.append c).All P := by
  intro id d hd
  rw [get?_append] at hd
  split at hd
  · cases hd; exact hc
  · exact h id d hd

theorem rebind (h : r.All P) (id : Nat) (varId : String) {f : ClassDef → ClassDef}
    (hf : ∀ c, P c → P (f c)) : (r.rebind id varId f).All P :=
  h.modify id fun c _ => hf c

end Registry.All

namespace Dump

/-! ## States -/

/-- The property holds of every record of a class that the state keeps. -/
structure State.AllClasses (P : ClassDef → Prop) (st : State) : Prop where
  registered : st.registry.All P
  current : ∀ c, st.KeepsApart c → P c

variable {cleaner : Cleaner} {ignore : IgnoreList} {st next : State} {lines : List String}

namespace State.AllClasses

theorem initial (ignore : IgnoreList) : (State.initial ignore).AllClasses P where
  registered := fun _ _ hc => by cases hc
  current := fun c hc => by rcases hc with hc | hc <;> cases hc

theorem modifyCurrent (h : st.AllClasses P) {f : ClassDef → ClassDef} (hf : ∀ c, P c → P (f c)) :
    (st.modifyCurrent f).AllClasses P := by
  unfold State.modifyCurrent
  match hcurrent : st.current with
  | none => exact h
  | some (.declared c) =>
      refine ⟨h.registered, fun d hd => ?_⟩
      rcases hd with hd | hd <;> cases hd
      exact hf c (h.current c (.inl hcurrent))
  | some (.detached c) =>
      refine ⟨h.registered, fun d hd => ?_⟩
      rcases hd with hd | hd <;> cases hd
      exact hf c (h.current c (.inr hcurrent))
  | some (.registered id) =>
      refine ⟨h.registered.modify id fun c _ hc => hf c hc, fun d hd => ?_⟩
      rcases hd with hd | hd <;> cases hd

theorem constructs (h : st.AllClasses P) {varId params : String} {body : List String}
    (hconstructed : ∀ c, P c → P (constructed cleaner c varId params body))
    (hconstructs : Constructs cleaner varId params body st next) : next.AllClasses P := by
  cases hconstructs with
  | nothing => exact h
  | @detached c apart _ =>
      refine ⟨h.registered, fun d hd => ?_⟩
      rcases hd with hd | hd <;> cases hd
      exact hconstructed c (h.current c apart)
  | @registered c apart _ _ =>
      refine ⟨h.registered.append (hconstructed c (h.current c apart)), fun d hd => ?_⟩
      rcases hd with hd | hd <;> cases hd
  | extended => exact ⟨h.registered.rebind _ varId hconstructed, h.current⟩

end State.AllClasses

/-! ## Invariants of classes -/

/-- The property holds of a class as it is named, and every change that a run makes keeps it. -/
structure ClassInvariant (cleaner : Cleaner) (P : ClassDef → Prop) : Prop where
  named : ∀ qualified c, ClassDef.ofQualified? qualified = some c → P c
  constructed : ∀ c varId params body, P c → P (constructed cleaner c varId params body)
  staticMethod : ∀ ignore member parts c, P c → P (addStaticMethod ignore cleaner member parts c)
  staticProperty : ∀ member value c, P c →
    P (addProperty { name := member, defaultValue := some value, isStatic := some true } c)
  bulk : ∀ ignore (change : BulkChange) c, P c → P (change.apply ignore cleaner c)
  declared : ∀ line property c, (InitializerLine.ofLine line).property? = some property → P c →
    P (addProperty property c)

namespace ClassInvariant

theorem declareAll (h : ClassInvariant cleaner P) {registry : Registry} (hall : registry.All P)
    (lines : List String) : (lines.foldl declare registry).All P := by
  induction lines generalizing registry with
  | nil => exact hall
  | cons line rest ih =>
      refine ih ?_
      unfold declare
      cases hdeclared : declared? registry line with
      | none => exact hall
      | some found =>
          obtain ⟨-, hproperty⟩ := declared?_eq_some_iff.mp hdeclared
          exact hall.modify _ fun c _ hc => h.declared line _ c hproperty hc

/-- An action keeps an invariant of all classes, if it holds of the class that the action names. -/
theorem perform (h : ClassInvariant cleaner P) {action : Action} (hall : st.AllClasses P)
    (hnamed : ∀ c, action = .className c → P c) (hperform : perform cleaner st action = .ok next) :
    next.AllClasses P := by
  cases action with
  | nothing => cases hperform; exact hall
  | assignment line target value =>
      cases hperform
      unfold addGlobalAssignment
      split
      · exact hall
      · exact ⟨hall.registered, hall.current⟩
  | block | assembly => cases hperform; exact ⟨hall.registered, hall.current⟩
  | separator =>
      cases hperform
      refine ⟨hall.registered, fun c hc => ?_⟩
      rcases hc with hc | hc <;> cases hc
  | className c =>
      cases hperform
      refine ⟨hall.registered, fun d hd => ?_⟩
      rcases hd with hd | hd <;> cases hd
      exact hnamed c rfl
  | constructor varId params body =>
      exact hall.constructs (fun c => h.constructed c varId params body)
        (performConstructor_constructs hperform)
  | staticMethod member parts =>
      cases hperform
      exact hall.modifyCurrent fun c => h.staticMethod st.ignore member parts c
  | staticProperty member value =>
      cases hperform
      refine hall.modifyCurrent fun c hc => ?_
      split
      · exact hc
      · exact h.staticProperty member value c hc
  | bulk varId change =>
      rcases perform_bulk_eq_ok_iff.mp hperform with ⟨-, rfl⟩ | ⟨id, bulk, -, -, rfl⟩
      · exact hall
      · exact ⟨hall.registered.modify id fun c _ => h.bulk st.ignore bulk c, hall.current⟩
  | initializer lines =>
      rw [perform_initializer_eq] at hperform
      cases hperform
      exact ⟨h.declareAll hall.registered lines, hall.current⟩

/-- At every boundary of a run the invariant holds of all classes. -/
theorem boundary (h : ClassInvariant cleaner P) {index : Nat}
    (hboundary : Boundary cleaner (State.initial ignore) lines index st) : st.AllClasses P := by
  induction hboundary with
  | start => exact .initial ignore
  | @advance index read st next line rest before hline hstep ih =>
      obtain ⟨action, hread, hperform⟩ := (step_eq_ok_iff cleaner st index line rest).mp hstep
      obtain ⟨shape, -, hopened⟩ := exists_openedBy_of_readAction hread
      refine h.perform ih ?_ hperform
      rintro c rfl
      obtain ⟨qualified, -, hclass⟩ := hopened
      exact h.named qualified c hclass

/-- **An invariant of classes holds of every recovered class.** -/
theorem recover (h : ClassInvariant cleaner P) {model : RecoveredModel}
    (accepted : recover cleaner ignore lines = .ok model) : model.registry.All P := by
  obtain ⟨final, hrun, rfl⟩ := map_eq_ok_iff.mp accepted
  exact (h.boundary (boundary_length_iff.mpr hrun)).registered

end ClassInvariant

/-! ## What a script tells of a property -/

/-- A script tells the name of a property, its value and whether it is static, and nothing else. -/
structure OfScript (p : Property) : Prop where
  typeName : p.typeName = none
  description : p.description = none
  isRest : p.isRest = none

theorem ofScript_of_member {member : Member} {p : Property} (h : member.property? = some p) :
    OfScript p := by
  cases member with
  | method name parts => cases h
  | property name value => cases h; exact ⟨rfl, rfl, rfl⟩

theorem ofScript_of_initializerLine {line : InitializerLine} {p : Property}
    (h : line.property? = some p) : OfScript p := by
  cases line with
  | literal | assignment => cases h; exact ⟨rfl, rfl, rfl⟩
  | statement | other => cases h

/-- Of a recovered class nothing else is known of its properties. -/
theorem properties_ofScript (cleaner : Cleaner) :
    ClassInvariant cleaner fun c => ∀ p ∈ c.properties, OfScript p where
  named := by
    rintro qualified c hclass p hp
    obtain ⟨⟨space, name⟩, -, rfl⟩ := Option.map_eq_some_iff.mp hclass
    cases hp
  constructed := fun _ _ _ _ hc => hc
  staticMethod := by
    intro ignore member parts c hc
    unfold addStaticMethod
    split <;> exact hc
  staticProperty := by
    intro member value c hc p hp
    rcases List.mem_append.mp hp with hp | hp
    · exact hc p hp
    · obtain rfl := List.mem_singleton.mp hp
      exact ⟨rfl, rfl, rfl⟩
  bulk := by
    intro ignore change c hc
    have hmembers (members : List Member) :
        ∀ p ∈ (addMembers ignore cleaner members c).properties, OfScript p := by
      intro p hp
      rcases List.mem_append.mp hp with hp | hp
      · exact hc p hp
      · obtain ⟨member, -, hmember⟩ := List.mem_filterMap.mp hp
        exact ofScript_of_member hmember
    cases change with
    | classMembers members trailer => cases trailer <;> exact hmembers members
    | interfaceMembers members bases => exact hmembers members
    | enumMembers members flags => exact hmembers members
    | arity count => exact hc
  declared := by
    intro line property c hproperty hc p hp
    rcases List.mem_append.mp hp with hp | hp
    · exact hc p hp
    · obtain rfl := List.mem_singleton.mp hp
      exact ofScript_of_initializerLine hproperty

end Dump

end ClassRecovery
