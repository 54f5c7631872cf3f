import ClassRecovery.Proofs.Dump.Action
import ClassRecovery.Proofs.Model.Registry

/-!
# Initializer blocks

A line of an initializer block does two things to a run, and they are independent: it may declare a
static property of a registered class (`declare`), and it may be recorded as a global statement
(`isRecorded`). No line binds a variable or ignores a name, so what is recorded of a block is
settled when it begins (`perform_initializer_eq`).
-/

set_option autoImplicit false

namespace ClassRecovery.Dump

/-- The class with one more property. -/
def addProperty (property : Property) (c : ClassDef) : ClassDef :=
  { c with properties := c.properties ++ [property] }

/-- The static property that a line declares, with the handle of the class. -/
def declared? (registry : Registry) (line : String) : Option (Nat × Property) := do
  let id ← (InitializerLine.ofLine line).receiver.bind registry.findByVar?
  let property ← (InitializerLine.ofLine line).property?
  return (id, property)

/-- The line assigns a literal to a member of a registered class. -/
def assignsLiteral (registry : Registry) (line : String) : Bool :=
  match InitializerLine.ofLine line with
  | .literal receiver _ _ => (registry.findByVar? receiver).isSome
  | _ => false

/-- The line is recorded among the global statements: it is about nothing that is ignored and no
class takes it whole. -/
def isRecorded (ignore : IgnoreList) (registry : Registry) (line : String) : Bool :=
  !(InitializerLine.ofLine line).receiver.any ignore.contains && !assignsLiteral registry line

/-- The registry with the property that a line declares. -/
def declare (registry : Registry) (line : String) : Registry :=
  match declared? registry line with
  | some (id, property) => registry.modify id (addProperty property)
  | none => registry

variable {registry : Registry} {line : String}

/-- A line declares nothing exactly when it assigns no member of a registered class. -/
theorem declared?_eq_some_iff {id : Nat} {property : Property} :
    declared? registry line = some (id, property) ↔
      (InitializerLine.ofLine line).receiver.bind registry.findByVar? = some id ∧
        (InitializerLine.ofLine line).property? = some property := by
  unfold declared?
  cases (InitializerLine.ofLine line).receiver.bind registry.findByVar? with
  | none => simp
  | some found => cases (InitializerLine.ofLine line).property? <;> simp

/-- The receiver of a line is an identifier. -/
theorem exists_identifier_of_receiver {receiver : String}
    (h : (InitializerLine.ofLine line).receiver = some receiver) :
    ∃ text rest, identifier? text = some (receiver.toList, rest) := by
  unfold InitializerLine.ofLine InitializerLine.ofChars at h
  cases hname : InitializerLine.receiver? line.toList with
  | none =>
      rw [hname] at h
      cases h
  | some parts =>
      rw [hname] at h
      obtain ⟨name, rest⟩ := parts
      -- whatever the line assigns, its receiver is this identifier
      have hreceiver : String.ofList name = receiver := by
        dsimp only at h
        split at h
        · exact Option.some.inj h
        · split at h <;> exact Option.some.inj h
      unfold InitializerLine.receiver? at hname
      simp only [Option.bind_eq_bind, Option.bind_eq_some_iff] at hname
      obtain ⟨text, -, ⟨found, after⟩, hidentifier, _, -, hsome⟩ := hname
      cases hsome
      exact ⟨text, after, by rw [← hreceiver, String.toList_ofList, hidentifier]⟩

theorem receiver_ne {receiver : String}
    (h : (InitializerLine.ofLine line).receiver = some receiver) : receiver ≠ "" := by
  obtain ⟨text, rest, hidentifier⟩ := exists_identifier_of_receiver h
  obtain ⟨hne, hparts⟩ := Option.ite_none_left_eq_some.mp hidentifier
  obtain ⟨hname, -⟩ := Prod.mk.inj (Option.some.inj hparts)
  rintro rfl
  exact hne (by simp [hname])

theorem colon_notMem_receiver {receiver : String}
    (h : (InitializerLine.ofLine line).receiver = some receiver) : ':' ∉ receiver.toList := by
  obtain ⟨text, rest, hidentifier⟩ := exists_identifier_of_receiver h
  obtain ⟨-, hparts⟩ := Option.ite_none_left_eq_some.mp hidentifier
  obtain ⟨hname, -⟩ := Prod.mk.inj (Option.some.inj hparts)
  intro hcolon
  rw [← hname] at hcolon
  have hident : Text.isIdent ':' = true := List.all_eq_true.mp List.all_takeWhile ':' hcolon
  exact absurd hident (by decide)

/-! ## What a line leaves as it is -/

theorem declare_byVar : (declare registry line).byVar = registry.byVar := by
  unfold declare
  split <;> rfl

theorem declare_findByVar? (varId : String) :
    (declare registry line).findByVar? varId = registry.findByVar? varId :=
  congrArg (fun index => Index.find? index varId) declare_byVar

theorem assignsLiteral_declare (other : String) :
    assignsLiteral (declare registry line) other = assignsLiteral registry other := by
  unfold assignsLiteral
  simp only [declare_findByVar?]

theorem isRecorded_declare (ignore : IgnoreList) :
    isRecorded ignore (declare registry line) = isRecorded ignore registry := by
  funext other
  rw [isRecorded, assignsLiteral_declare, isRecorded]

/-! ## What a line and a block do -/

/-- Keeping a line is recording it unless its receiver is ignored. -/
theorem keepInitializerLine_eq (cleaner : Cleaner) (st : State) (receiver : Option String)
    (line : String) :
    keepInitializerLine cleaner st receiver line
      = st.addGlobals (if receiver.any st.ignore.contains then [] else [cleaner.clean line]) := by
  unfold keepInitializerLine
  split
  · simp [State.addGlobals]
  · rfl

/-- What a line of an initializer block does. -/
theorem readInitializerLine_eq (cleaner : Cleaner) (st : State) (line : String) :
    readInitializerLine cleaner st line
      = { st with
          registry := declare st.registry line
          globals := st.globals
            ++ if isRecorded st.ignore st.registry line then [cleaner.clean line] else [] } := by
  unfold readInitializerLine declare declared? isRecorded assignsLiteral
  simp only [keepInitializerLine_eq, State.addGlobals]
  cases hline : InitializerLine.ofLine line with
  | literal receiver member value =>
      cases hfound : st.registry.findByVar? receiver with
      | none =>
          simp only [InitializerLine.receiver, Option.bind_some, hfound]
          cases hignored : st.ignore.contains receiver <;> simp [hignored]
      | some id =>
          -- the class takes the whole line
          simp only [InitializerLine.receiver, InitializerLine.property?, Option.bind_some, hfound]
          simp [InitializerLine.isAssignment]
          rfl
  | assignment receiver member =>
      cases hfound : st.registry.findByVar? receiver with
      | none =>
          simp only [InitializerLine.receiver, Option.bind_some, hfound]
          cases hignored : st.ignore.contains receiver <;> simp [hignored]
      | some id =>
          simp only [InitializerLine.receiver, InitializerLine.property?, Option.bind_some, hfound]
          cases hignored : st.ignore.contains receiver <;>
            simp [InitializerLine.isAssignment, hignored] <;> rfl
  | statement receiver =>
      simp only [InitializerLine.receiver, InitializerLine.property?, Option.bind_some]
      cases hfound : st.registry.findByVar? receiver <;>
        cases hignored : st.ignore.contains receiver <;> simp [hignored]
  | other => simp [InitializerLine.receiver, InitializerLine.property?]

/-- What the lines of an initializer block do, each line seen as the block begins. -/
theorem foldl_readInitializerLine_eq (cleaner : Cleaner) (st : State) (lines : List String) :
    lines.foldl (readInitializerLine cleaner) st
      = { st with
          registry := lines.foldl declare st.registry
          globals := st.globals
            ++ (lines.filter (isRecorded st.ignore st.registry)).map cleaner.clean } := by
  induction lines generalizing st with
  | nil => simp
  | cons line rest ih =>
      rw [List.foldl_cons, ih, readInitializerLine_eq]
      rw [isRecorded_declare, List.foldl_cons, List.filter_cons, List.append_assoc]
      cases isRecorded st.ignore st.registry line <;> rfl

/-- What an initializer block does. -/
theorem perform_initializer_eq (cleaner : Cleaner) (st : State) (lines : List String) :
    perform cleaner st (.initializer lines)
      = .ok { st with
          registry := lines.foldl declare st.registry
          globals := st.globals
            ++ "" :: (lines.filter (isRecorded st.ignore st.registry)).map cleaner.clean } := by
  show Except.ok (lines.foldl (readInitializerLine cleaner) (st.addGlobals [""])) = _
  rw [foldl_readInitializerLine_eq, State.addGlobals, List.append_assoc]
  rfl

end ClassRecovery.Dump
