import ClassRecovery.Proofs.Dump.Action

/-!
# Places in the dump

A run counts the lines it has passed only to say where it fails. Started `n` lines further down,
it does the same and reports its failures `n` lines further down (`runFrom_add`).
-/

set_option autoImplicit false

namespace ClassRecovery

/-- The same failure `n` lines further down. -/
def Error.shift (n : Nat) : Error → Error
  | .unrecognizedLine line text => .unrecognizedLine (line + n) text
  | .unterminated start terminator => .unterminated (start + n) terminator
  | failure => failure

namespace Dump

variable (n index : Nat) (line : String) (lines rest : List String)

theorem unrecognizedAt_add (text : String) :
    Error.unrecognizedAt (index + n) text = (Error.unrecognizedAt index text).shift n := by
  show Error.unrecognizedLine (index + n + 1) text = .unrecognizedLine (index + 1 + n) text
  rw [Nat.add_right_comm]

/-! ## Parts of constructs -/

theorem partOf_add {α : Type} (part : Option α) :
    partOf (index + n) line part = (partOf index line part).mapError (Error.shift n) := by
  cases part with
  | some part => rfl
  | none => exact congrArg Except.error (unrecognizedAt_add n index line)

theorem cutAtClosing_add (closes : String → Bool) (terminator : String) :
    cutAtClosing closes terminator (index + n) lines
      = (cutAtClosing closes terminator index lines).mapError (Error.shift n) := by
  unfold cutAtClosing
  cases cutAtClosing? closes lines with
  | some cut => rfl
  | none =>
      show Except.error (Error.unterminated (index + n + 1) terminator)
        = .error (.unterminated (index + 1 + n) terminator)
      rw [Nat.add_right_comm]

/-! ## Member lists -/

/-- The same list `n` lines further down. -/
def MemberSource.shift : MemberSource → MemberSource
  | .block firstLine => .block (firstLine + n)
  | .inline line => .inline (line + n)

/-- The members of a list and its failure, `n` lines further down. -/
def shiftMembers (members : List Member × Option Error) : List Member × Option Error :=
  (members.1, members.2.map (Error.shift n))

theorem lineIndex_shift (source : MemberSource) (offset : Nat) :
    (source.shift n).lineIndex offset = source.lineIndex offset + n := by
  cases source with
  | block firstLine => exact Nat.add_right_comm firstLine n offset
  | inline line => rfl

theorem readMembersFrom_shift (indent : String) (source : MemberSource) (skip offset : Nat) :
    readMembersFrom indent (source.shift n) skip offset lines
      = shiftMembers n (readMembersFrom indent source skip offset lines) := by
  induction lines generalizing skip offset with
  | nil => cases skip <;> rfl
  | cons line rest ih =>
      cases skip with
      | succ skip => exact ih skip (offset + 1)
      | zero =>
          unfold readMembersFrom
          simp only [lineIndex_shift, unrecognizedAt_add, cutAtClosing_add]
          split
          · rfl
          · split
            · cases cutAtClosing (closesMethod indent) "\x7d" (source.lineIndex offset) rest with
              | error failure => rfl
              | ok cut => simp only [mapError_ok, ih]; rfl
            · split
              · simp only [ih]; rfl
              · rfl

theorem readMembers_shift (indent : String) (source : MemberSource) :
    readMembers indent (source.shift n) lines
      = shiftMembers n (readMembers indent source lines) := by
  unfold readMembers
  split
  · rfl
  · exact readMembersFrom_shift n lines indent source 0 0

theorem readBlock_add (firstLine : Nat) :
    readBlock (firstLine + n) lines = shiftMembers n (readBlock firstLine lines) :=
  readMembers_shift n lines blockIndent (.block firstLine)

theorem readInline_add (members : String) :
    readInline (index + n) members = shiftMembers n (readInline index members) :=
  readMembers_shift n _ "" (.inline index)

theorem allMembers_shift (members : List Member × Option Error) :
    allMembers (shiftMembers n members) = (allMembers members).mapError (Error.shift n) := by
  obtain ⟨members, failure⟩ := members
  cases failure <;> rfl

/-! ## Actions -/

/-- The same action `n` lines further down. -/
def Action.shift : Action → Action
  | .bulk varId change => .bulk varId (change.mapError (Error.shift n))
  | action => action

/-- An action that has been read, and how many further lines it has, `n` lines further down. -/
def shiftRead (action : Except Error (Action × Nat)) : Except Error (Action × Nat) :=
  (action.map fun (action, read) => (action.shift n, read)).mapError (Error.shift n)

theorem classChange_shift (members : List Member × Option Error)
    (trailer : Except Error Trailer) :
    classChange (shiftMembers n members) (trailer.mapError (Error.shift n))
      = (classChange members trailer).mapError (Error.shift n) := by
  unfold classChange
  rw [allMembers_shift]
  cases allMembers members with
  | error failure => rfl
  | ok members => cases trailer <;> rfl

theorem interfaceChange_shift (members : List Member × Option Error)
    (bases : Except Error (List String)) :
    interfaceChange (shiftMembers n members) (bases.mapError (Error.shift n))
      = (interfaceChange members bases).mapError (Error.shift n) := by
  unfold interfaceChange
  rw [allMembers_shift]
  cases allMembers members with
  | error failure => rfl
  | ok members => cases bases <;> rfl

theorem actionOf_add (shape : LineShape) :
    actionOf (index + n) line rest shape = shiftRead n (actionOf index line rest shape) := by
  cases shape with
  | boilerplate | globalDirective | constructorPrototype | separator => rfl
  | globalAssignment | assembly | staticProperty | genericArity => rfl
  | globalBlock | initializerBlock =>
      simp only [actionOf, cutAtClosing_add]
      cases cutAtClosing _ _ index rest <;> rfl
  | constructor | staticMethod =>
      simp only [actionOf, cutFunction, cutAtClosing_add]
      cases cutAtClosing _ _ index rest <;> rfl
  | className qualified =>
      simp only [actionOf, partOf_add]
      cases partOf index line (ClassDef.ofQualified? qualified) <;> rfl
  | classBlock varId =>
      simp only [actionOf, cutAtClosing_add]
      cases cutAtClosing (startsWith "\t\x7d") "\\t\x7d" index rest with
      | error failure => rfl
      | ok cut =>
          obtain ⟨body, closing⟩ := cut
          have hfirst : index + n + 1 = index + 1 + n := Nat.add_right_comm index n 1
          have hplace : index + 1 + n + body.length = index + 1 + body.length + n :=
            Nat.add_right_comm (index + 1) n body.length
          have hpart := partOf_add n (index + 1 + body.length) closing (closingTrailer? closing)
          have hblock := readBlock_add n body (index + 1)
          simp only [mapError_ok, ok_bind, hfirst, hplace, hblock]
          rw [hpart]
          cases partOf (index + 1 + body.length) closing (closingTrailer? closing) with
          | error failure => rfl
          | ok trailer =>
              have hchange := classChange_shift n (readBlock (index + 1) body) (.ok trailer)
              rw [mapError_ok] at hchange
              simp only [mapError_ok, ok_bind, hchange]
              rfl
  | classInline varId members trailer =>
      simp only [actionOf, readInline_add, partOf_add, classChange_shift]
      rfl
  | interfaceInline varId members trailer =>
      simp only [actionOf, readInline_add, partOf_add, interfaceChange_shift]
      rfl
  | enumInline varId members flags =>
      simp only [actionOf, readInline_add, allMembers_shift]
      cases allMembers (readInline index members) <;> rfl

theorem readAction_add (scope : Scope) :
    readAction scope (index + n) line rest = shiftRead n (readAction scope index line rest) := by
  unfold readAction
  cases classify scope line with
  | some shape => exact actionOf_add n index line rest shape
  | none => exact congrArg Except.error (unrecognizedAt_add n index line)

/-- A constructor fails at no line, whether it registers its class or extends it. -/
theorem performConstructor_mapError (cleaner : Cleaner) (st : State) (varId params : String)
    (body : List String) :
    (performConstructor cleaner st varId params body).mapError (Error.shift n)
      = performConstructor cleaner st varId params body := by
  have hregister (c : ClassDef) :
      (registerClass cleaner st c varId params body).mapError (Error.shift n)
        = registerClass cleaner st c varId params body := by
    unfold registerClass
    dsimp only
    split
    · rfl
    · split <;> rfl
  unfold performConstructor
  split
  · rfl
  · exact hregister _
  · exact hregister _
  · unfold extendClass
    split <;> rfl

theorem perform_shift (cleaner : Cleaner) (st : State) (action : Action) :
    perform cleaner st (action.shift n) = (perform cleaner st action).mapError (Error.shift n) := by
  cases action with
  | nothing | assignment | block | assembly | separator | className => rfl
  | staticMethod | staticProperty | initializer => rfl
  | constructor varId params body =>
      exact (performConstructor_mapError n cleaner st varId params body).symm
  | bulk varId change =>
      simp only [Action.shift, perform, onClass]
      cases st.registry.findByVar? varId with
      | none => rfl
      | some id => cases change <;> rfl

/-! ## Steps and runs -/

theorem step_add (cleaner : Cleaner) (st : State) :
    step cleaner st (index + n) line rest
      = (step cleaner st index line rest).mapError (Error.shift n) := by
  rw [step_eq, step_eq, readAction_add]
  cases readAction st.scope index line rest with
  | error failure => rfl
  | ok entry =>
      obtain ⟨action, read⟩ := entry
      show thenPerform cleaner st (.ok (action.shift n, read))
        = (thenPerform cleaner st (.ok (action, read))).mapError (Error.shift n)
      simp only [thenPerform, ok_bind, perform_shift]
      cases perform cleaner st action <;> rfl

/-- Started further down, a run does the same and fails further down. -/
theorem runFrom_add (cleaner : Cleaner) (skip : Nat) (st : State) :
    runFrom cleaner skip (index + n) st lines
      = (runFrom cleaner skip index st lines).mapError (Error.shift n) := by
  induction lines generalizing skip index st with
  | nil => cases skip <;> rfl
  | cons line rest ih =>
      have hnext : index + n + 1 = index + 1 + n := Nat.add_right_comm index n 1
      cases skip with
      | succ skip => simp only [runFrom, hnext, ih]
      | zero =>
          simp only [runFrom, step_add, hnext]
          cases step cleaner st index line rest with
          | error failure => rfl
          | ok outcome => exact ih (index + 1) outcome.2 outcome.1

end Dump

end ClassRecovery
