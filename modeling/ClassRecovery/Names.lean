import ClassRecovery.Model.Member
import ClassRecovery.Text.LetterCase

/-!
# Names on the two sides

The documentation names a member as its source does (`DoWork`, `Count`). The generated script
mangles names: a private or clashing one gets the marker `$` and a lower-case first letter
(`$doWork`), an overload a marker and a number (`$doWork$1`, `doWork$2`), a rest parameter a
digit (`args1`), and a secondary constructor is named `$ctor1`, `$ctor2` and so on.

A method is looked up by name and number of parameters. If no method of that name takes that
number, the first one of that name is the best guess.
-/

set_option autoImplicit false

namespace ClassRecovery.Names

open Text

/-- The mark of a mangled name. -/
def marker : Char := '$'

/-- The beginning of the name of a secondary constructor. -/
def constructorMark : List Char := "$ctor".toList

/-! ## Spellings of one name -/

/-- The name with its first letter in lower case. -/
def lowerFirst : List Char → List Char
  | [] => []
  | first :: rest => lowercaseChar first ++ rest

/-- The mangled form of a documented name. -/
def mangled (doc : List Char) : List Char := marker :: lowerFirst doc

/-- The names agree but for the case of their letters. -/
def sameIgnoringCase (a b : List Char) : Bool := lowercase a == lowercase b

/-- The structural name is the documented one, then `suffix` and one digit from 1 to 9; case
does not count. -/
def hasNumberedSuffix (structural doc suffix : List Char) : Bool :=
  match (lowercase doc ++ suffix).isPrefixOf? (lowercase structural) with
  | some [digit] => '1' ≤ digit && digit ≤ '9'
  | _ => false

/-- The name a documented property gets in the script: a capital first letter is lowered, any
other name gets the marker. -/
def structuralName (doc : List Char) : List Char :=
  if doc.head?.any isUppercase then lowerFirst doc else marker :: doc

/-! ## Matching -/

/-- A structural property name denotes a documented name; `takesRest` admits a digit at its
end. -/
def denotesProperty (takesRest : Bool) (structural doc : List Char) : Bool :=
  sameIgnoringCase structural doc
    || (!doc.isEmpty && structural == mangled doc)
    || (!structural.isEmpty && doc == mangled structural)
    || (takesRest && !doc.isEmpty && hasNumberedSuffix structural doc [])
    || lowercase structural == marker :: lowercase doc
    || lowercase doc == marker :: lowercase structural

/-- A structural method name denotes a documented name. The empty documented name is the
constructor, which in the script has no name or that of a secondary constructor. -/
def denotesMethod (structural doc : List Char) : Bool :=
  if doc.isEmpty then structural.isEmpty || constructorMark.isPrefixOf structural
  else
    sameIgnoringCase structural doc
      || structural == mangled doc
      || (mangled doc ++ [marker]).isPrefixOf structural
      || hasNumberedSuffix structural doc [marker]

/-- The property denotes a documented name. -/
def matchesProperty (p : Property) (doc : String) : Bool :=
  denotesProperty p.takesRest p.name.toList doc.toList

/-- The method denotes a documented name. -/
def matchesMethod (m : Method) (doc : String) : Bool := denotesMethod m.name.toList doc.toList

/-! ## Looking up -/

/-- The place of the first property that denotes a documented name. -/
def findProperty? (properties : List Property) (doc : String) : Option Nat :=
  properties.findIdx? fun p => matchesProperty p doc

/-- The place of the first method that denotes a documented name and takes this number of
parameters. -/
def findOverload? (methods : List Method) (doc : String) (arity : Nat) : Option Nat :=
  methods.findIdx? fun m => matchesMethod m doc && m.arity == arity

/-- The place of the first method that denotes a documented name, whatever it takes. -/
def findNamed? (methods : List Method) (doc : String) : Option Nat :=
  methods.findIdx? fun m => matchesMethod m doc

/-- The place of the method for a documented name and number of parameters: an exact overload,
else the first of that name. -/
def findMethod? (methods : List Method) (doc : String) (arity : Nat) : Option Nat :=
  (findOverload? methods doc arity).or (findNamed? methods doc)

end ClassRecovery.Names
