import ClassRecovery.Dump.Recognition
import ClassRecovery.Model.Member

/-!
# Lines of an initializer block

A line of an initializer block may assign a member of some variable, with a literal or with any
other value, or be another statement on a variable.
-/

set_option autoImplicit false

namespace ClassRecovery.Dump

open Text

/-- A line of an initializer block. -/
inductive InitializerLine
  /-- The assignment of an array, string, object, number or null literal. -/
  | literal (receiver member value : String)
  /-- The assignment of anything else. -/
  | assignment (receiver member : String)
  /-- Any other statement on a receiver. -/
  | statement (receiver : String)
  | other
  deriving DecidableEq, Repr

namespace InitializerLine

/-- A text between two marks, with no forbidden character between them. -/
def isEnclosed (opening closing forbidden : Char) (text : List Char) : Bool :=
  (between? [opening] [closing] text).any fun inner => !inner.contains forbidden

/-- A literal: an array with no further opening bracket, a string with no further quote, an
object with no further closing brace, a run of digits, dots and signs, or `null`. -/
def isLiteral (text : List Char) : Bool :=
  isEnclosed '[' ']' '[' text
    || isEnclosed '\x22' '\x22' '\x22' text
    || isEnclosed '\x27' '\x27' '\x27' text
    || isEnclosed '\x7b' '\x7d' '\x7d' text
    || (!text.isEmpty && text.all fun c => c.isDigit || c == '.' || c == '-')
    || text == "null".toList

/-- The receiver of a line and what follows its dot. -/
def receiver? (line : List Char) : Option (List Char × List Char) := do
  let (receiver, rest) ← identifier? (← "\t\t".toList.isPrefixOf? line)
  some (receiver, ← ['.'].isPrefixOf? rest)

/-- The member that a line assigns and what follows the equals sign. -/
def assigned? (rest : List Char) : Option (List Char × List Char) := do
  let (member, rest) ← identifier? rest
  some (member, ← " = ".toList.isPrefixOf? rest)

/-- A line of an initializer block by its characters. -/
def ofChars (line : List Char) : InitializerLine :=
  match receiver? line with
  | none => .other
  | some (receiver, rest) =>
    match assigned? rest with
    | none => .statement (String.ofList receiver)
    | some (member, value) =>
      match ([';'].isSuffixOf? value).filter isLiteral with
      | some text =>
        .literal (String.ofList receiver) (String.ofList member) (String.ofList text)
      | none => .assignment (String.ofList receiver) (String.ofList member)

/-- A line of an initializer block. -/
def ofLine (line : String) : InitializerLine := ofChars line.toList

/-- The variable that the line is about. -/
def receiver : InitializerLine → Option String
  | .literal name .. => some name
  | .assignment name _ => some name
  | .statement name => some name
  | .other => none

/-- The static property that the line declares. -/
def property? : InitializerLine → Option Property
  | .literal _ member value =>
    some { name := member, defaultValue := some value, isStatic := some true }
  | .assignment _ member => some { name := member, isStatic := some true }
  | _ => none

/-- The line assigns a value that is no literal. -/
def isAssignment : InitializerLine → Bool
  | .assignment .. => true
  | _ => false

end InitializerLine

end ClassRecovery.Dump
