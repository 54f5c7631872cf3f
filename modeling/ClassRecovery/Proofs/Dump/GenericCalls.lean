import ClassRecovery.Extraction
import ClassRecovery.Proofs.Dump.ClassChange
import ClassRecovery.Proofs.Dump.Growth
import ClassRecovery.Proofs.Dump.Lockstep

/-!
# Making generic calls explicit changes texts only

Whether generic calls are made explicit shows in the lines of method bodies and in the global
statements, and nowhere else: the dump is read to the same end, be it a failure, and the model is
the same but for those texts (`recover_genericCalls`).

The state of the one run is a function of the state of the other (`State.mapText`). A captured line
is never read again, so each action that is performed commutes with that function.
-/

set_option autoImplicit false

namespace ClassRecovery

/-! ## Texts of classes and models -/

/-- The method with every line of its body changed. -/
def Method.mapText (f : String → String) (m : Method) : Method :=
  { m with body := m.body.map (List.map f) }

/-- The class with every line of its bodies changed. -/
def ClassDef.mapText (f : String → String) (c : ClassDef) : ClassDef :=
  { c with methods := c.methods.map (Method.mapText f) }

/-- The model with every line of its bodies and every global statement changed. -/
def RecoveredModel.mapText (f : String → String) (model : RecoveredModel) : RecoveredModel :=
  { model with
    registry := model.registry.modifyAll (ClassDef.mapText f)
    globals := model.globals.map f }

theorem ClassDef.mapText_keepsIdentity (f : String → String) : KeepsIdentity (mapText f) :=
  fun _ => ⟨rfl, rfl, rfl⟩

/-- A class without methods has no text. -/
theorem ClassDef.mapText_of_empty {f : String → String} {c : ClassDef} (methods : c.methods = []) :
    c.mapText f = c := by
  cases c
  cases methods
  rfl

/-- The second cleaner does what the first one does and changes what it leaves. -/
structure Cleaner.Refines (f : String → String) (cleaner cleaner' : Cleaner) : Prop where
  /-- An empty line stays empty. -/
  empty : f "" = ""
  clean : ∀ line, cleaner'.clean line = f (cleaner.clean line)
  selfReferences : cleaner'.selfReferences = cleaner.selfReferences

namespace Cleaner

theorem refines_genericCalls (selfReferences : Bool) :
    Refines GenericCall.explicit { genericCalls := false, selfReferences := selfReferences }
      { genericCalls := true, selfReferences := selfReferences } where
  empty := by decide +kernel
  clean := fun _ => rfl
  selfReferences := rfl

variable {f : String → String} {cleaner cleaner' : Cleaner}

theorem Refines.body (h : Refines f cleaner cleaner') (c : ClassDef) (lines : List String) :
    cleaner'.body (c.mapText f) lines = (cleaner.body c lines).map f := by
  have hself (line : String) : cleaner'.nameSelf (c.mapText f) line = cleaner.nameSelf c line := by
    unfold nameSelf
    rw [h.selfReferences]
    rfl
  unfold Cleaner.body
  rw [List.map_map]
  refine List.map_congr_left fun line _ => ?_
  rw [h.clean, hself]
  rfl

end Cleaner

namespace Dump

/-! ## Changes of a class -/

section Classes

variable {f : String → String} {cleaner cleaner' : Cleaner} {c : ClassDef}
  (h : Cleaner.Refines f cleaner cleaner')

theorem mapText_addMethods (f : String → String) (c : ClassDef) (methods : List Method) :
    ClassDef.mapText f { c with methods := c.methods ++ methods }
      = { c.mapText f with methods := (c.mapText f).methods ++ methods.map (Method.mapText f) } := by
  unfold ClassDef.mapText
  dsimp only
  rw [List.map_append]

include h

theorem mapText_addConstructor (params : String) (body : List String) (c : ClassDef) :
    (addConstructor cleaner params body c).mapText f
      = addConstructor cleaner' params body (c.mapText f) := by
  unfold addConstructor
  rw [mapText_addMethods, h.body]
  rfl

theorem mapText_constructed (varId params : String) (body : List String) (c : ClassDef) :
    (constructed cleaner c varId params body).mapText f
      = constructed cleaner' (c.mapText f) varId params body :=
  mapText_addConstructor h params body { c with varId := some varId }

theorem mapText_addStaticMethod (ignore : IgnoreList) (member : String) (parts : FunctionParts)
    (c : ClassDef) :
    (addStaticMethod ignore cleaner member parts c).mapText f
      = addStaticMethod ignore cleaner' member parts (c.mapText f) := by
  have hkey : (c.mapText f).memberKey member = c.memberKey member := rfl
  unfold addStaticMethod
  rw [hkey]
  split
  · rfl
  · rw [mapText_addMethods, h.body]
    rfl

/-- The method that a member adds to a class. -/
theorem mapText_method? (c : ClassDef) (member : Member) :
    (member.method? cleaner c).map (Method.mapText f) = member.method? cleaner' (c.mapText f) := by
  cases member with
  | method name parts =>
      simp only [Member.method?, Option.map_some, Method.mapText, h.body]
  | property name value => rfl

theorem mapText_addMembers (ignore : IgnoreList) (members : List Member) (c : ClassDef) :
    (addMembers ignore cleaner members c).mapText f
      = addMembers ignore cleaner' members (c.mapText f) := by
  let kept := members.filter fun member => !ignore.contains (c.memberKey member.name)
  have hmethods : (kept.filterMap (·.method? cleaner c)).map (Method.mapText f)
      = kept.filterMap (·.method? cleaner' (c.mapText f)) := by
    rw [List.map_filterMap]
    congr 1
    funext member
    exact mapText_method? h c member
  let added : ClassDef := { c with methods := c.methods ++ kept.filterMap (·.method? cleaner c) }
  calc (addMembers ignore cleaner members c).mapText f
      = { added.mapText f with
          properties := c.properties ++ kept.filterMap Member.property? } := rfl
    _ = addMembers ignore cleaner' members (c.mapText f) := by
        rw [mapText_addMethods, hmethods]
        rfl

theorem mapText_bulkChange (ignore : IgnoreList) (change : BulkChange) (c : ClassDef) :
    (change.apply ignore cleaner c).mapText f = change.apply ignore cleaner' (c.mapText f) := by
  have hmembers (members : List Member) := mapText_addMembers h ignore members c
  cases change with
  | classMembers members trailer =>
      simp only [BulkChange.apply, ← hmembers]
      cases trailer <;> rfl
  | interfaceMembers members bases | enumMembers members flags =>
      simp only [BulkChange.apply, ← hmembers]
      rfl
  | arity count => rfl

end Classes

/-! ## States -/

/-- The state with every captured line changed. -/
def State.mapText (f : String → String) (st : State) : State :=
  { st with
    current := st.current.map (Current.map (ClassDef.mapText f))
    registry := st.registry.modifyAll (ClassDef.mapText f)
    globals := st.globals.map f }

variable {f : String → String} {cleaner cleaner' : Cleaner} {st : State} {varId params : String}
  {body : List String} {r : Registry}

theorem scope_mapText (f : String → String) (st : State) : (st.mapText f).scope = st.scope :=
  scope_eq_of_changed (f := ClassDef.mapText f) (fun _ => rfl) rfl rfl

theorem modifyCurrent_mapText {g g' : ClassDef → ClassDef}
    (hg : ∀ c, (g c).mapText f = g' (c.mapText f)) (st : State) :
    (st.mapText f).modifyCurrent g' = (st.modifyCurrent g).mapText f := by
  obtain ⟨current, ignore, registry, globals, assembly⟩ := st
  cases current with
  | none => rfl
  | some current =>
      cases current with
      | declared c | detached c =>
          simp only [State.mapText, State.modifyCurrent, Option.map_some, Current.map, hg]
      | registered id =>
          simp only [State.mapText, State.modifyCurrent, Option.map_some, Current.map]
          rw [Registry.modify_modifyAll fun c _ => hg c]

theorem addGlobals_mapText (f : String → String) (st : State) (lines : List String) :
    (st.mapText f).addGlobals (lines.map f) = (st.addGlobals lines).mapText f := by
  simp only [State.mapText, State.addGlobals, List.map_append]

section Steps

variable (h : Cleaner.Refines f cleaner cleaner')

include h

theorem registerClass_mapText (c : ClassDef) :
    registerClass cleaner' (st.mapText f) (c.mapText f) varId params body
      = (registerClass cleaner st c varId params body).map (State.mapText f) := by
  have hignored : (st.mapText f).ignore.contains (c.mapText f).qualifiedName
      = st.ignore.contains c.qualifiedName := rfl
  have hrecord := mapText_constructed h varId params body c
  cases hcontains : st.ignore.contains c.qualifiedName with
  | true =>
      rw [registerClass_of_ignored hcontains, registerClass_of_ignored (hignored.trans hcontains),
        ← hrecord]
      rfl
  | false =>
      rw [registerClass_of_kept hcontains, registerClass_of_kept (hignored.trans hcontains),
        ← hrecord]
      show (((st.registry.modifyAll _).insert _).mapError _).map _ = _
      rw [Registry.insert_modifyAll (ClassDef.mapText_keepsIdentity f) (fun _ => rfl)]
      cases st.registry.insert (constructed cleaner c varId params body) <;> rfl

theorem extendClass_mapText (id : Nat) :
    extendClass cleaner' (st.mapText f) id varId params body
      = (extendClass cleaner st id varId params body).map (State.mapText f) := by
  rw [extendClass_eq, extendClass_eq]
  show (((st.registry.modifyAll _).bindVar id varId).mapError _).map _ = _
  rw [Registry.bindVar_modifyAll (ClassDef.mapText_keepsIdentity f) (fun _ _ => rfl)]
  cases st.registry.bindVar id varId with
  | error cause => rfl
  | ok registry =>
      have hmodify : (registry.modify id (addConstructor cleaner params body)).modifyAll _
          = (registry.modifyAll _).modify id (addConstructor cleaner' params body) :=
        Registry.modify_modifyAll fun c _ => mapText_addConstructor h params body c
      refine congrArg Except.ok ?_
      unfold State.mapText
      dsimp only
      rw [hmodify]

theorem performConstructor_mapText :
    performConstructor cleaner' (st.mapText f) varId params body
      = (performConstructor cleaner st varId params body).map (State.mapText f) := by
  have hcurrent : (st.mapText f).current = st.current.map (Current.map (ClassDef.mapText f)) := rfl
  unfold performConstructor
  rw [hcurrent]
  cases st.current with
  | none => rfl
  | some current =>
      cases current with
      | declared c | detached c => exact registerClass_mapText h c
      | registered id => exact extendClass_mapText h id

/-! ## Actions and runs -/

theorem clean_mapText (lines : List String) :
    lines.map cleaner'.clean = (lines.map cleaner.clean).map f := by
  rw [List.map_map]
  exact List.map_congr_left fun line _ => h.clean line

theorem addGlobalAssignment_mapText (line target value : String) :
    addGlobalAssignment cleaner' (st.mapText f) line target value
      = (addGlobalAssignment cleaner st line target value).mapText f := by
  have hignore : (st.mapText f).ignore = st.ignore := rfl
  unfold addGlobalAssignment
  rw [hignore]
  split
  · rfl
  · rw [h.clean]
    exact addGlobals_mapText f st [cleaner.clean line]

theorem performBulk_mapText (change : Except Error BulkChange) :
    perform cleaner' (st.mapText f) (.bulk varId change)
      = (perform cleaner st (.bulk varId change)).map (State.mapText f) := by
  have hfound : (st.mapText f).registry.findByVar? varId = st.registry.findByVar? varId := rfl
  show onClass (st.mapText f) varId _ = (onClass st varId _).map _
  unfold onClass
  rw [hfound]
  cases st.registry.findByVar? varId with
  | none => rfl
  | some id =>
      cases change with
      | error failure => rfl
      | ok change =>
          have hmodify : (st.registry.modify id (change.apply st.ignore cleaner ·)).modifyAll _
              = (st.registry.modifyAll _).modify id (change.apply st.ignore cleaner' ·) :=
            Registry.modify_modifyAll fun c _ => mapText_bulkChange h st.ignore change c
          refine congrArg Except.ok ?_
          unfold State.mapText
          dsimp only
          rw [hmodify]

omit h in
/-- A property that a line declares has no text. -/
theorem declareAll_mapText (lines : List String) (r : Registry) :
    lines.foldl declare (r.modifyAll (ClassDef.mapText f))
      = (lines.foldl declare r).modifyAll (ClassDef.mapText f) := by
  induction lines generalizing r with
  | nil => rfl
  | cons line rest ih =>
      rw [List.foldl_cons, List.foldl_cons, declare_modifyAll fun _ _ _ _ _ => rfl]
      exact ih _

theorem performInitializer_mapText (lines : List String) :
    perform cleaner' (st.mapText f) (.initializer lines)
      = (perform cleaner st (.initializer lines)).map (State.mapText f) := by
  have hregistry := declareAll_mapText (f := f) lines st.registry
  have hrecorded : isRecorded (st.mapText f).ignore (st.mapText f).registry
      = isRecorded st.ignore st.registry := rfl
  rw [perform_initializer_eq, perform_initializer_eq, hrecorded, clean_mapText h]
  simp only [Except.map, State.mapText, List.map_append, List.map_cons, h.empty, hregistry]

/-- **One step of the two runs.** Every action has the same outcome in both, but for the texts. -/
theorem perform_mapText {action : Action}
    (hnamed : ∀ c, action = .className c → c.methods = []) :
    perform cleaner' (st.mapText f) action
      = (perform cleaner st action).map (State.mapText f) := by
  cases action with
  | nothing | assembly | separator => rfl
  | assignment line target value =>
      exact congrArg Except.ok (addGlobalAssignment_mapText h line target value)
  | block lines =>
      show Except.ok _ = Except.ok _
      rw [clean_mapText h, addGlobals_mapText]
  | className c =>
      have hclass : c.mapText f = c := ClassDef.mapText_of_empty (hnamed c rfl)
      simp only [perform, Except.map, State.mapText, Option.map_some, Current.map, hclass]
  | constructor varId params body => exact performConstructor_mapText h
  | staticMethod member parts =>
      exact congrArg Except.ok (modifyCurrent_mapText (mapText_addStaticMethod h _ member parts) st)
  | staticProperty member value =>
      refine congrArg Except.ok (modifyCurrent_mapText (fun c => ?_) st)
      have hkey : (c.mapText f).memberKey member = c.memberKey member := rfl
      have hignore : (st.mapText f).ignore = st.ignore := rfl
      rw [hkey, hignore]
      split <;> rfl
  | bulk varId change => exact performBulk_mapText h change
  | initializer lines => exact performInitializer_mapText h lines

end Steps

/-- **Generic calls are a matter of texts.** Whether they are made explicit or not, a dump is
refused for the same reason, or the models are the same but for the lines of method bodies and the
global statements, each of which is made explicit on its own. -/
theorem recover_genericCalls (selfReferences : Bool) (ignore : IgnoreList) (lines : List String) :
    recover { genericCalls := true, selfReferences := selfReferences } ignore lines
      = (recover { genericCalls := false, selfReferences := selfReferences } ignore lines).map
          (RecoveredModel.mapText GenericCall.explicit) := by
  let cleaner : Cleaner := { genericCalls := false, selfReferences := selfReferences }
  let cleaner' : Cleaner := { genericCalls := true, selfReferences := selfReferences }
  have hrefines : Cleaner.Refines GenericCall.explicit cleaner cleaner' :=
    Cleaner.refines_genericCalls selfReferences
  let R (st st' : State) : Prop := st' = st.mapText GenericCall.explicit
  have hscope (st st' : State) (h : R st st') : st'.scope = st.scope := by
    rw [h, scope_mapText]
  have hperform (v : Visit) (st' : State) (action : Action) (_ : True) (h : R v.state st')
      (haction : v.action = .ok action) :
      SameOutcome R (perform cleaner v.state action) (perform cleaner' st' action) := by
    rw [h, perform_mapText hrefines]
    · exact SameOutcome.map _ _
    -- a class has no methods when it is named
    · rintro c rfl
      obtain ⟨_, _, qualified, -, hclass⟩ := Visit.exists_openedBy haction
      obtain ⟨⟨space, name⟩, -, rfl⟩ := Option.map_eq_some_iff.mp hclass
      rfl
  have hsame : SameOutcome R (run cleaner ignore lines) (run cleaner' ignore lines) :=
    runFrom_sameOutcome hscope hperform rfl fun _ _ => trivial
  have hmodels := hsame.map_eq (f := fun st => st.model.mapText GenericCall.explicit)
    (g := State.model) fun st st' h => by rw [h]; rfl
  rw [recover, recover, ← hmodels]
  cases run cleaner ignore lines <;> rfl

end Dump

end ClassRecovery
