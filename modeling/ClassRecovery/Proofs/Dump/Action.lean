import ClassRecovery.Dump.Run
import ClassRecovery.Proofs.Dump.Closing
import ClassRecovery.Proofs.Dump.Recognition
import ClassRecovery.Proofs.Outcome

/-!
# Reading and performing

A step has two halves. `readAction` reads a construct of the dump: it looks at the line and the
lines after it, but of the state only at the scope. `perform` carries out the action that has been
read; it looks at the state, but no longer at the dump. `step_eq` puts the halves together.

What two runs have in common, or what a run keeps, is said of each half on its own.
-/

set_option autoImplicit false

namespace ClassRecovery.Dump

/-! ## Actions -/

/-- What a bulk call says of the class its variable stands for. -/
inductive BulkChange
  | classMembers (members : List Member) (trailer : Trailer)
  | interfaceMembers (members : List Member) (bases : List String)
  | enumMembers (members : List Member) (flags : Bool)
  | arity (count : UInt32)
  deriving DecidableEq, Repr

/-- The class with what a bulk call says of it. -/
def BulkChange.apply (ignore : IgnoreList) (cleaner : Cleaner) (c : ClassDef) :
    BulkChange → ClassDef
  | .classMembers members trailer => trailer.apply (addMembers ignore cleaner members c)
  | .interfaceMembers members bases =>
    let c := addMembers ignore cleaner members c
    { c with interfaces := c.interfaces ++ bases, isInterface := some true }
  | .enumMembers members flags =>
    let c := addMembers ignore cleaner members c
    { c with isEnum := some true, isFlags := if flags then some true else c.isFlags }
  | .arity count => { c with genericArity := count }

/-- A construct of the dump, read but not yet carried out. A bulk call whose members or trailer
cannot be read is a failure only if its variable stands for a class. -/
inductive Action
  | nothing
  | assignment (line target value : String)
  | block (lines : List String)
  | assembly (name : String)
  | separator
  | className (c : ClassDef)
  | constructor (varId params : String) (body : List String)
  | staticMethod (member : String) (parts : FunctionParts)
  | staticProperty (member value : String)
  | bulk (varId : String) (change : Except Error BulkChange)
  | initializer (lines : List String)

/-! ## Reading -/

/-- The bulk change of a member list with a trailer. -/
def classChange (members : List Member × Option Error) (trailer : Except Error Trailer) :
    Except Error BulkChange := do
  let members ← allMembers members
  return .classMembers members (← trailer)

/-- The bulk change of a member list of an interface. -/
def interfaceChange (members : List Member × Option Error)
    (bases : Except Error (List String)) : Except Error BulkChange := do
  let members ← allMembers members
  return .interfaceMembers members (← bases)

/-- A part of the line at this place, or the failure that it cannot be read. -/
def partOf {α : Type} (index : Nat) (line : String) : Option α → Except Error α
  | some part => .ok part
  | none => .error (.unrecognizedAt index line)

/-- The action of a recognized line, and how many of the lines after it belong to it. -/
def actionOf (index : Nat) (line : String) (rest : List String) :
    LineShape → Except Error (Action × Nat)
  | .boilerplate | .globalDirective | .constructorPrototype => .ok (.nothing, 0)
  | .globalAssignment target value => .ok (.assignment line target value, 0)
  | .globalBlock => do
    let (body, closing) ← cutAtClosing (startsWith "\t\x7d") "\\t\x7d" index rest
    return (.block (line :: body ++ [closing]), body.length + 1)
  | .assembly name => .ok (.assembly name, 0)
  | .separator => .ok (.separator, 0)
  | .className qualified => do
    return (.className (← partOf index line (ClassDef.ofQualified? qualified)), 0)
  | .constructor varId params => do
    let (body, _) ← cutFunction index rest
    return (.constructor varId params body, body.length + 1)
  | .staticMethod member params => do
    let (body, _) ← cutFunction index rest
    return (.staticMethod member (.ofLines "\t" params body), body.length + 1)
  | .staticProperty member value => .ok (.staticProperty member value, 0)
  | .classBlock varId => do
    let (body, closing) ← cutAtClosing (startsWith "\t\x7d") "\\t\x7d" index rest
    let trailer ← partOf (index + 1 + body.length) closing (closingTrailer? closing)
    return (.bulk varId (classChange (readBlock (index + 1) body) (.ok trailer)),
      body.length + 1)
  | .classInline varId members trailer =>
    .ok (.bulk varId
      (classChange (readInline index members) (partOf index line (Trailer.ofText? trailer))), 0)
  | .interfaceInline varId members trailer =>
    .ok (.bulk varId
      (interfaceChange (readInline index members) (partOf index line (baseInterfaces? trailer))),
      0)
  | .genericArity varId arity => .ok (.bulk varId (.ok (.arity arity)), 0)
  | .enumInline varId members flags =>
    .ok (.bulk varId ((allMembers (readInline index members)).map (.enumMembers · flags)), 0)
  | .initializerBlock => do
    let (body, _) ← cutAtClosing (startsWith "\t\x7d)();") "\\t\x7d)();" index rest
    return (.initializer body, body.length + 1)

/-- The action that begins with the line at this place, and how many of the lines after it belong
to it. -/
def readAction (scope : Scope) (index : Nat) (line : String) (rest : List String) :
    Except Error (Action × Nat) :=
  match classify scope line with
  | some shape => actionOf index line rest shape
  | none => .error (.unrecognizedAt index line)

/-! ## Performing -/

/-- The class with a static method, unless the method is ignored. -/
def addStaticMethod (ignore : IgnoreList) (cleaner : Cleaner) (member : String)
    (parts : FunctionParts) (c : ClassDef) : ClassDef :=
  if ignore.contains (c.memberKey member) then c
  else
    { c with
      methods := c.methods ++
        [{ name := member, params := parts.params, body := some (cleaner.body c parts.body),
           isStatic := some true, typeParams := parts.typeParams }] }

/-- A constructor of the class being read, whose lines have been cut. -/
def performConstructor (cleaner : Cleaner) (st : State) (varId params : String)
    (body : List String) : Except Error State :=
  match st.current with
  | none => .ok st
  | some (.declared c) | some (.detached c) => registerClass cleaner st c varId params body
  | some (.registered id) => extendClass cleaner st id varId params body

/-- The state after an action. -/
def perform (cleaner : Cleaner) (st : State) : Action → Except Error State
  | .nothing => .ok st
  | .assignment line target value => .ok (addGlobalAssignment cleaner st line target value)
  | .block lines => .ok (st.addGlobals (lines.map cleaner.clean))
  | .assembly name => .ok { st with assembly := name }
  | .separator => .ok { st with current := none }
  | .className c => .ok { st with current := some (.declared c) }
  | .constructor varId params body => performConstructor cleaner st varId params body
  | .staticMethod member parts =>
    .ok (st.modifyCurrent (addStaticMethod st.ignore cleaner member parts))
  | .staticProperty member value => .ok (addStaticProperty st member value)
  | .bulk varId change =>
    onClass st varId (change.map fun change c => change.apply st.ignore cleaner c)
  | .initializer lines =>
    .ok (lines.foldl (readInitializerLine cleaner) (st.addGlobals [""]))

/-! ## The halves of a step -/

section Halves

variable (cleaner : Cleaner) (st : State) (index : Nat) (line : String) (rest : List String)

/-- Performs an action that has been read, and keeps how many further lines it has. -/
def thenPerform (action : Except Error (Action × Nat)) : StepResult := do
  let (action, read) ← action
  return (← perform cleaner st action, read)

theorem readConstructor_eq (varId params : String) (h : st.current.isSome) :
    readConstructor cleaner st index line varId params rest
      = thenPerform cleaner st (actionOf index line rest (.constructor varId params)) := by
  unfold readConstructor thenPerform actionOf
  cases cutFunction index rest with
  | error failure => rfl
  | ok cut =>
      show _ = (do return (← performConstructor cleaner st varId params cut.1, cut.1.length + 1))
      unfold performConstructor
      cases hcurrent : st.current with
      | none => simp [hcurrent] at h
      | some current => cases current <;> rfl

theorem readStaticMethod_eq (member params : String) :
    readStaticMethod cleaner st index member params rest
      = thenPerform cleaner st (actionOf index line rest (.staticMethod member params)) := by
  unfold readStaticMethod thenPerform actionOf
  cases cutFunction index rest <;> rfl

theorem readGlobalBlock_eq :
    readGlobalBlock cleaner st index line rest
      = thenPerform cleaner st (actionOf index line rest .globalBlock) := by
  unfold readGlobalBlock thenPerform actionOf
  cases cutAtClosing (startsWith "\t\x7d") "\\t\x7d" index rest <;> rfl

theorem readInitializer_eq :
    readInitializer cleaner st index rest
      = thenPerform cleaner st (actionOf index line rest .initializerBlock) := by
  unfold readInitializer thenPerform actionOf
  cases cutAtClosing (startsWith "\t\x7d)();") "\\t\x7d)();" index rest <;> rfl

theorem readClassBlock_eq (varId : String) :
    readClassBlock cleaner st index varId rest
      = thenPerform cleaner st (actionOf index line rest (.classBlock varId)) := by
  unfold readClassBlock thenPerform actionOf
  cases cutAtClosing (startsWith "\t\x7d") "\\t\x7d" index rest with
  | error failure => rfl
  | ok cut =>
      obtain ⟨body, closing⟩ := cut
      simp only [ok_bind]
      cases closingTrailer? closing with
      | none => rfl
      | some trailer =>
          simp only [partOf, ok_bind, classChange]
          cases allMembers (readBlock (index + 1) body) <;> rfl

theorem readClassInline_eq (varId members trailer : String) :
    readClassInline cleaner st index line varId members trailer
      = thenPerform cleaner st (actionOf index line rest (.classInline varId members trailer)) := by
  unfold readClassInline thenPerform actionOf classChange
  simp only [ok_bind]
  cases allMembers (readInline index members) with
  | error failure => rfl
  | ok members => cases Trailer.ofText? trailer <;> rfl

theorem readInterfaceInline_eq (varId members trailer : String) :
    readInterfaceInline cleaner st index line varId members trailer
      = thenPerform cleaner st
          (actionOf index line rest (.interfaceInline varId members trailer)) := by
  unfold readInterfaceInline thenPerform actionOf interfaceChange
  simp only [ok_bind]
  cases allMembers (readInline index members) with
  | error failure => rfl
  | ok members => cases baseInterfaces? trailer <;> rfl

theorem readEnumInline_eq (varId members : String) (flags : Bool) :
    readEnumInline cleaner st index varId members flags
      = thenPerform cleaner st (actionOf index line rest (.enumInline varId members flags)) := by
  unfold readEnumInline thenPerform actionOf
  simp only [ok_bind]
  cases allMembers (readInline index members) <;> rfl

/-- A step reads an action and performs it. -/
theorem step_eq :
    step cleaner st index line rest
      = thenPerform cleaner st (readAction st.scope index line rest) := by
  unfold step readAction
  cases hshape : classify st.scope line with
  | none => rfl
  | some shape =>
      cases shape with
      | boilerplate | globalDirective | constructorPrototype => rfl
      | globalAssignment target value => rfl
      | globalBlock => exact readGlobalBlock_eq cleaner st index line rest
      | assembly name => rfl
      | separator => rfl
      | className qualified =>
          unfold apply actionOf thenPerform
          cases hclass : ClassDef.ofQualified? qualified <;> simp only [hclass] <;> rfl
      | constructor varId params =>
          -- without a class the line is none that opens a constructor
          have hcurrent : st.current.isSome := hasClass_of_classify_constructor hshape
          exact readConstructor_eq cleaner st index line rest varId params hcurrent
      | staticMethod member params =>
          exact readStaticMethod_eq cleaner st index line rest member params
      | staticProperty member value => rfl
      | classBlock varId => exact readClassBlock_eq cleaner st index line rest varId
      | classInline varId members trailer =>
          exact readClassInline_eq cleaner st index line rest varId members trailer
      | interfaceInline varId members trailer =>
          exact readInterfaceInline_eq cleaner st index line rest varId members trailer
      | genericArity varId arity => rfl
      | enumInline varId members flags =>
          exact readEnumInline_eq cleaner st index line rest varId members flags
      | initializerBlock => exact readInitializer_eq cleaner st index line rest

/-- A step succeeds exactly when an action is read and can be performed. -/
theorem step_eq_ok_iff {next : State} {read : Nat} :
    step cleaner st index line rest = .ok (next, read) ↔
      ∃ action, readAction st.scope index line rest = .ok (action, read) ∧
        perform cleaner st action = .ok next := by
  rw [step_eq, thenPerform, bind_eq_ok_iff]
  constructor
  · rintro ⟨⟨action, count⟩, hread, h⟩
    obtain ⟨after, hperform, heq⟩ := bind_eq_ok_iff.mp h
    cases heq
    exact ⟨action, hread, hperform⟩
  · rintro ⟨action, hread, hperform⟩
    refine ⟨(action, read), hread, bind_eq_ok_iff.mpr ⟨next, hperform, rfl⟩⟩

end Halves

/-! ## Where actions come from -/

/-- What the opening line has to be for a change by a bulk call on this variable. -/
def BulkChange.OpenedBy (shape : LineShape) (varId : String) : BulkChange → Prop
  | .classMembers _ _ =>
    shape = .classBlock varId ∨ ∃ members trailer, shape = .classInline varId members trailer
  | .interfaceMembers _ _ => ∃ members trailer, shape = .interfaceInline varId members trailer
  | .enumMembers _ flags => ∃ members, shape = .enumInline varId members flags
  | .arity count => shape = .genericArity varId count

/-- What the opening line and the lines after it have to be for an action about a class. -/
def Action.OpenedBy (shape : LineShape) (rest : List String) : Action → Prop
  | .className c =>
    ∃ qualified, shape = .className qualified ∧ ClassDef.ofQualified? qualified = some c
  | .constructor varId params _ => shape = .constructor varId params
  | .staticMethod member _ => ∃ params, shape = .staticMethod member params
  | .staticProperty member value => shape = .staticProperty member value
  | .bulk varId change => ∀ bulk, change = .ok bulk → bulk.OpenedBy shape varId
  | .initializer lines =>
    shape = .initializerBlock ∧ lines = linesBefore (startsWith "\t\x7d)();") rest
  | _ => True

section Origin

variable {scope : Scope} {index read : Nat} {line : String} {rest : List String} {action : Action}

theorem partOf_eq_ok_iff {α : Type} {part? : Option α} {part : α} :
    partOf index line part? = .ok part ↔ part? = some part := by
  cases part? <;> simp [partOf]

theorem openedBy_of_classChange {shape : LineShape} {varId : String}
    {members : List Member × Option Error} {trailer : Except Error Trailer}
    (hshape : shape = .classBlock varId ∨
      ∃ members trailer, shape = .classInline varId members trailer)
    {bulk : BulkChange} (h : classChange members trailer = .ok bulk) :
    bulk.OpenedBy shape varId := by
  obtain ⟨_, -, h⟩ := bind_eq_ok_iff.mp h
  obtain ⟨_, -, h⟩ := bind_eq_ok_iff.mp h
  cases h
  exact hshape

theorem openedBy_of_actionOf {shape : LineShape}
    (h : actionOf index line rest shape = .ok (action, read)) : action.OpenedBy shape rest := by
  cases shape with
  | className qualified =>
      obtain ⟨c, hpart, h⟩ := bind_eq_ok_iff.mp h
      cases h
      exact ⟨qualified, rfl, partOf_eq_ok_iff.mp hpart⟩
  | initializerBlock =>
      obtain ⟨⟨body, closing⟩, hcut, h⟩ := bind_eq_ok_iff.mp h
      cases h
      exact ⟨rfl, (linesBefore_of_cut (cutAtClosing_eq_ok_iff.mp hcut)).symm⟩
  | constructor varId params =>
      obtain ⟨_, _, h⟩ := bind_eq_ok_iff.mp h
      cases h
      rfl
  | staticMethod member params =>
      obtain ⟨_, _, h⟩ := bind_eq_ok_iff.mp h
      cases h
      exact ⟨params, rfl⟩
  | staticProperty => cases h; rfl
  | globalBlock =>
      obtain ⟨_, _, h⟩ := bind_eq_ok_iff.mp h
      cases h
      trivial
  | classBlock =>
      obtain ⟨_, _, h⟩ := bind_eq_ok_iff.mp h
      obtain ⟨_, _, h⟩ := bind_eq_ok_iff.mp h
      cases h
      exact fun bulk => openedBy_of_classChange (.inl rfl)
  | classInline varId members trailer =>
      cases h
      exact fun bulk => openedBy_of_classChange (.inr ⟨members, trailer, rfl⟩)
  | interfaceInline varId members trailer =>
      cases h
      intro bulk hbulk
      obtain ⟨_, -, hbulk⟩ := bind_eq_ok_iff.mp hbulk
      obtain ⟨_, -, hbulk⟩ := bind_eq_ok_iff.mp hbulk
      cases hbulk
      exact ⟨members, trailer, rfl⟩
  | genericArity =>
      cases h
      intro bulk hbulk
      cases hbulk
      rfl
  | enumInline varId members flags =>
      cases h
      intro bulk hbulk
      obtain ⟨_, -, rfl⟩ := map_eq_ok_iff.mp hbulk
      exact ⟨members, rfl⟩
  | _ => cases h; trivial

/-- An action that is read is that of the shape of the line. -/
theorem exists_shape_of_readAction (h : readAction scope index line rest = .ok (action, read)) :
    ∃ shape, classify scope line = some shape ∧
      actionOf index line rest shape = .ok (action, read) := by
  unfold readAction at h
  cases hshape : classify scope line with
  | none =>
      rw [hshape] at h
      cases h
  | some shape =>
      rw [hshape] at h
      exact ⟨shape, rfl, h⟩

/-- An action that is read has been opened by the line. -/
theorem exists_openedBy_of_readAction
    (h : readAction scope index line rest = .ok (action, read)) :
    ∃ shape, classify scope line = some shape ∧ action.OpenedBy shape rest := by
  obtain ⟨shape, hshape, haction⟩ := exists_shape_of_readAction h
  exact ⟨shape, hshape, openedBy_of_actionOf haction⟩

/-- The opening line of an initializer block leads to the lines before the first one that closes
it. -/
theorem readAction_initializer (hshape : classify scope line = some .initializerBlock)
    (h : readAction scope index line rest = .ok (action, read)) :
    action = .initializer (linesBefore (startsWith "\t\x7d)();") rest) := by
  rw [readAction, hshape] at h
  obtain ⟨⟨body, closing⟩, hcut, h⟩ := bind_eq_ok_iff.mp h
  cases h
  rw [linesBefore_of_cut (cutAtClosing_eq_ok_iff.mp hcut)]

end Origin

end ClassRecovery.Dump
