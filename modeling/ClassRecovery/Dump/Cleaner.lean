import ClassRecovery.GenericCall
import ClassRecovery.Model.ClassDef

/-!
# Cleaning captured lines

Two changes make a captured line readable outside the script. Explicit generic calls get
their types back, in every captured line; and in the bodies of a class every occurrence of its
variable becomes its name. The variable is replaced as plain text, before the generic calls.
-/

set_option autoImplicit false

namespace ClassRecovery

/-- Which changes captured lines undergo. -/
structure Cleaner where
  genericCalls : Bool := true
  selfReferences : Bool := true
  deriving DecidableEq, Repr, Inhabited

namespace Cleaner

/-- A captured line outside any class. -/
def clean (cleaner : Cleaner) (line : String) : String :=
  if cleaner.genericCalls then GenericCall.explicit line else line

/-- A line of a class in which the variable of the class is replaced by its name. -/
def nameSelf (cleaner : Cleaner) (c : ClassDef) (line : String) : String :=
  match c.varId with
  | some varId =>
    if cleaner.selfReferences && !varId.isEmpty then
      String.ofList (Text.replaceAll varId.toList c.name.toList line.toList)
    else line
  | none => line

/-- The captured lines of a body in a class. -/
def body (cleaner : Cleaner) (c : ClassDef) (lines : List String) : List String :=
  lines.map fun line => cleaner.clean (cleaner.nameSelf c line)

end Cleaner

end ClassRecovery
