import ClassRecovery.Proofs.Dump.Growth
import ClassRecovery.Proofs.Dump.Lockstep
import ClassRecovery.Proofs.Model.Indexes

/-!
# What a run does to the identity of classes

Constructors are the only lines that register a class or bind a variable (`IdentityStep`). So the
names of the classes and the index of variables at the end of a run can be told from the bindings
that its constructors make, one after the other (`gains_of_run`).
-/

set_option autoImplicit false

namespace ClassRecovery.Dump

/-! ## Changes that keep the identity -/

theorem addStaticMethod_keepsIdentity (ignore : IgnoreList) (cleaner : Cleaner) (member : String)
    (parts : FunctionParts) :
    ClassDef.KeepsIdentity (addStaticMethod ignore cleaner member parts) := by
  intro c
  unfold addStaticMethod
  split <;> exact ⟨rfl, rfl, rfl⟩

theorem bulkChange_keepsIdentity (ignore : IgnoreList) (cleaner : Cleaner) (change : BulkChange) :
    ClassDef.KeepsIdentity fun c => change.apply ignore cleaner c := by
  intro c
  cases change with
  | classMembers members trailer => cases trailer <;> exact ⟨rfl, rfl, rfl⟩
  | interfaceMembers | enumMembers | arity => exact ⟨rfl, rfl, rfl⟩

theorem addProperty_keepsIdentity (property : Property) :
    ClassDef.KeepsIdentity (addProperty property) :=
  fun _ => ⟨rfl, rfl, rfl⟩

/-! ## Bindings -/

/-- A constructor makes a variable stand for a registered class. -/
structure Binding where
  varId : String
  /-- The handle of the class. -/
  id : Nat
  /-- The qualified name of the class. -/
  name : String
  /-- The class is registered by this constructor. -/
  registers : Bool
  deriving DecidableEq, Repr

/-- The binding that an action makes if it succeeds. -/
def State.binding? (st : State) : Action → Option Binding
  | .constructor varId _ _ =>
    match st.current with
    | none => none
    | some (.declared c) | some (.detached c) =>
      if st.ignore.contains c.qualifiedName then none
      else some ⟨varId, st.registry.size, c.qualifiedName, true⟩
    | some (.registered id) => some ⟨varId, id, st.registry.nameOf id, false⟩
  | _ => none

/-- The binding that is made at a top-level line. -/
def Visit.binding? (v : Visit) : Option Binding :=
  match v.action with
  | .ok action => v.state.binding? action
  | .error _ => none

/-- The bindings that a run makes, in source order. -/
def bindings (cleaner : Cleaner) (ignore : IgnoreList) (lines : List String) : List Binding :=
  (visits cleaner ignore lines).filterMap Visit.binding?

/-! ## Steps -/

/-- What an action does to the identity of classes. -/
inductive IdentityStep (st : State) (action : Action) : Registry → Prop
  /-- It binds nothing. -/
  | same {next : Registry} (hbinding : st.binding? action = none)
      (hsame : st.registry.SameIdentities next) : IdentityStep st action next
  /-- It registers a class whose variable stands for nothing yet. -/
  | registered {c : ClassDef} {varId : String}
      (hbinding : st.binding? action
        = some ⟨varId, st.registry.size, c.qualifiedName, true⟩)
      (hvar : c.varId = some varId) (hfree : st.registry.findByVar? varId = none) :
      IdentityStep st action (st.registry.append c)
  /-- It binds one more variable to a class. -/
  | extended {id : Nat} {varId : String} {f : ClassDef → ClassDef}
      (hbinding : st.binding? action = some ⟨varId, id, st.registry.nameOf id, false⟩)
      (hid : id < st.registry.size)
      (hown : ∀ existing, st.registry.findByVar? varId = some existing → existing = id)
      (hname : ∀ c, (f c).qualifiedName = c.qualifiedName)
      (hvar : ∀ c, (f c).varId = some varId) :
      IdentityStep st action (st.registry.rebind id varId f)

variable {cleaner : Cleaner} {ignore : IgnoreList} {st next final : State} {action : Action}
  {lines : List String} {index : Nat} {r : Registry}

theorem sameIdentities_modifyCurrent (st : State) {f : ClassDef → ClassDef}
    (hf : ClassDef.KeepsIdentity f) :
    st.registry.SameIdentities (st.modifyCurrent f).registry := by
  unfold State.modifyCurrent
  split
  · exact .refl _
  · exact .refl _
  · exact .refl _
  · exact .modify _ _ hf

theorem sameIdentities_declareAll (registry : Registry) (lines : List String) :
    registry.SameIdentities (lines.foldl declare registry) := by
  induction lines generalizing registry with
  | nil => exact .refl registry
  | cons line rest ih =>
      refine Registry.SameIdentities.trans ?_ (ih (declare registry line))
      unfold declare
      split
      · exact .modify _ _ (addProperty_keepsIdentity _)
      · exact .refl _

theorem constructs_identityStep {varId params : String} {body : List String}
    (h : Constructs cleaner varId params body st next) :
    IdentityStep st (.constructor varId params body) next.registry := by
  cases h with
  | nothing hcurrent => exact .same (by simp only [State.binding?, hcurrent]) (.refl _)
  | @detached c apart hignored =>
      refine .same ?_ (.refl _)
      rcases apart with hcurrent | hcurrent <;> simp [State.binding?, hcurrent, hignored]
  | @registered c apart hkept hfree =>
      refine .registered ?_ rfl hfree
      rcases apart with hcurrent | hcurrent <;> simp [State.binding?, hcurrent, hkept] <;> rfl
  | @extended id hcurrent hid hown =>
      exact .extended (by simp only [State.binding?, hcurrent]) hid hown (fun _ => rfl) fun _ => rfl

/-- An action that succeeds registers a class, extends one or leaves all identities alone. -/
theorem perform_identityStep (h : perform cleaner st action = .ok next) :
    IdentityStep st action next.registry := by
  cases action with
  | nothing | block | assembly | separator | className => cases h; exact .same rfl (.refl _)
  | assignment line target value =>
      cases h
      refine .same rfl ?_
      unfold addGlobalAssignment
      split <;> exact .refl _
  | constructor varId params body => exact constructs_identityStep (performConstructor_constructs h)
  | staticMethod member parts =>
      cases h
      exact .same rfl (sameIdentities_modifyCurrent st (addStaticMethod_keepsIdentity _ _ _ _))
  | staticProperty member value =>
      cases h
      refine .same rfl (sameIdentities_modifyCurrent st fun c => ?_)
      split <;> exact ⟨rfl, rfl, rfl⟩
  | bulk varId change =>
      rcases perform_bulk_eq_ok_iff.mp h with ⟨-, rfl⟩ | ⟨id, bulk, -, -, rfl⟩
      · exact .same rfl (.refl _)
      · exact .same rfl (.modify _ _ (bulkChange_keepsIdentity _ _ _))
  | initializer lines =>
      rw [perform_initializer_eq] at h
      cases h
      exact .same rfl (sameIdentities_declareAll _ _)

/-- The action at a top-level line makes the binding of the line. -/
theorem Visit.binding?_eq {v : Visit} (h : v.action = .ok action) :
    v.binding? = v.state.binding? action := by
  rw [Visit.binding?, h]

/-! ## Invariants of a run -/

theorem IdentityStep.namesIndexed (h : IdentityStep st action r)
    (hindexed : st.registry.NamesIndexed) : r.NamesIndexed := by
  cases h with
  | same _ hsame => exact hindexed.same hsame
  | registered => exact hindexed.append _
  | extended _ _ _ hname _ => exact hindexed.rebind hname _ _

theorem IdentityStep.varsRecorded (h : IdentityStep st action r)
    (hrecorded : st.registry.VarsRecorded) : r.VarsRecorded := by
  cases h with
  | same _ hsame => exact hrecorded.same hsame
  | registered _ hvar hfree =>
      refine hrecorded.append fun varId hvarId => ?_
      cases hvar.symm.trans hvarId
      exact hfree
  | extended _ hid hown _ hvar => exact hrecorded.rebind hid hown hvar

/-- At every boundary of a run all names and variables are found in the indexes. -/
theorem Boundary.indexes (h : Boundary cleaner (State.initial ignore) lines index st) :
    st.registry.NamesIndexed ∧ st.registry.VarsRecorded := by
  induction h with
  | start => exact ⟨.empty, .empty⟩
  | advance before hline hstep ih =>
      obtain ⟨action, -, hperform⟩ := (step_eq_ok_iff ..).mp hstep
      have hidentity := perform_identityStep hperform
      exact ⟨hidentity.namesIndexed ih.1, hidentity.varsRecorded ih.2⟩

/-! ## Bindings of a run -/

/-- The names of the classes that are registered by these bindings. -/
def registeredNames (bindings : List Binding) : List String :=
  (bindings.filter Binding.registers).map Binding.name

/-- The later registry has the names and the variables of the earlier one and those of the
bindings. -/
structure Gains (bindings : List Binding) (r later : Registry) : Prop where
  names : later.names = r.names ++ registeredNames bindings
  byVar : later.byVar.entries = (bindings.map fun b => (b.varId, b.id)).reverse ++ r.byVar.entries
  named : ∀ b ∈ bindings, later.names[b.id]? = some b.name

namespace Gains

variable {bs cs : List Binding} {s t : Registry}

theorem same (h : r.SameIdentities s) : Gains [] r s where
  names := h.names.trans (List.append_nil _).symm
  byVar := congrArg Index.entries h.byVar
  named := fun _ hb => by cases hb

theorem trans (h : Gains bs r s) (k : Gains cs s t) : Gains (bs ++ cs) r t where
  names := by
    rw [k.names, h.names, List.append_assoc]
    simp only [registeredNames, List.filter_append, List.map_append]
  byVar := by
    rw [k.byVar, h.byVar, List.map_append, List.reverse_append, List.append_assoc]
  named := fun b hb => by
    rcases List.mem_append.mp hb with hb | hb
    · -- names are only added
      have hname := h.named b hb
      have hlt := (List.getElem?_eq_some_iff.mp hname).1
      rw [k.names, List.getElem?_append_left hlt, hname]
    · exact k.named b hb

end Gains

/-- An action adds the binding that it makes. -/
theorem IdentityStep.gains (h : IdentityStep st action r) :
    Gains (st.binding? action).toList st.registry r := by
  cases h with
  | same hbinding hsame =>
      rw [hbinding]
      exact .same hsame
  | @registered c varId hbinding hvar _ =>
      rw [hbinding]
      refine ⟨Registry.names_append _ c, ?_, fun b hb => ?_⟩
      · show (st.registry.byVar.bindSome c.varId st.registry.size).entries = _
        rw [hvar]
        rfl
      · obtain rfl := List.mem_singleton.mp hb
        rw [Registry.names_append, ← Registry.length_names, List.getElem?_concat_length]
  | @extended id varId f hbinding hid _ hname _ =>
      rw [hbinding]
      have hnames : (st.registry.rebind id varId f).names = st.registry.names :=
        Registry.names_modify hname _ _
      refine ⟨hnames.trans (List.append_nil _).symm, rfl, fun b hb => ?_⟩
      obtain rfl := List.mem_singleton.mp hb
      have hclass : st.registry.get? id = some st.registry.classes[id] :=
        List.getElem?_eq_getElem hid
      rw [hnames, Registry.getElem?_names, Registry.nameOf, hclass]
      rfl

/-- From every boundary on a run adds the bindings that are made there. -/
theorem Boundary.gains {start : State} (h : Boundary cleaner start lines index st)
    (hrun : runFrom cleaner 0 0 start lines = .ok final) :
    Gains ((visitsFrom cleaner 0 index st (lines.drop index)).filterMap Visit.binding?)
      st.registry final.registry := by
  let bindingsFrom (index : Nat) (st : State) : List Binding :=
    (visitsFrom cleaner 0 index st (lines.drop index)).filterMap Visit.binding?
  refine h.induction_of_runFrom
    (P := fun index st => Gains (bindingsFrom index st) st.registry final.registry)
    (fun _ => ?last) (fun {index st line rest next read} _ hline hstep hnext => ?back) hrun
  case last =>
    dsimp only [bindingsFrom]
    rw [List.drop_length]
    exact .same (.refl _)
  case back =>
    obtain ⟨action, hread, hperform⟩ := (step_eq_ok_iff ..).mp hstep
    have haction : (Visit.mk st index line rest).action = .ok action := Visit.action_eq_ok hread
    have hcons : bindingsFrom index st
        = (st.binding? action).toList ++ bindingsFrom (index + 1 + read) next := by
      dsimp only [bindingsFrom]
      rw [visitsFrom_of_step hline hstep, List.filterMap_cons, Visit.binding?_eq haction]
      cases st.binding? action <;> rfl
    rw [hcons]
    exact (perform_identityStep hperform).gains.trans hnext

/-- **The identity of classes at the end of a run.** The names of the classes and the index of
variables are those of the bindings that the run has made, and the indexes are in order. -/
theorem gains_of_run (hrun : run cleaner ignore lines = .ok final) :
    Gains (bindings cleaner ignore lines) {} final.registry ∧
      final.registry.NamesIndexed ∧ final.registry.VarsRecorded :=
  ⟨Boundary.start.gains hrun, (boundary_length_iff.mpr hrun).indexes⟩

end ClassRecovery.Dump
