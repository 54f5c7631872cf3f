import ClassRecovery.Model.Member
import ClassRecovery.Text.Cut

/-!
# Classes

A recovered class with its members and its soft references to other classes. The qualified name
identifies a class, and the key of a member is the qualified name, a colon and the member's name.
-/

set_option autoImplicit false

namespace ClassRecovery

/-- The shapes a class can take. -/
inductive ClassKind
  | enum
  | abstractClass
  | interface
  | concreteClass
  deriving DecidableEq, Repr

/-- A recovered class. -/
structure ClassDef where
  /-- The dotted namespace. -/
  space : String
  name : String
  /-- The identifier the documentation uses. -/
  docId : Option String := none
  /-- The methods in the order they were found; overloads share a name. -/
  methods : List Method := []
  properties : List Property := []
  /-- References to other classes: a qualified name, a variable or a documentation identifier. -/
  links : List String := []
  /-- The variable that holds the class in the script. -/
  varId : Option String := none
  baseClass : Option String := none
  interfaces : List String := []
  /-- The number of type parameters; zero also if it is not known. -/
  genericArity : UInt32 := 0
  isEnum : Option Bool := none
  /-- An enumeration of bit flags. -/
  isFlags : Option Bool := none
  isAbstract : Option Bool := none
  isInterface : Option Bool := none
  deriving DecidableEq, Repr, Inhabited

/-- The namespace and the name of a dotted name, cut at the last dot; neither may be empty. -/
def splitQualified? (qualified : String) : Option (String × String) :=
  match Text.splitLast? ['.'] qualified.toList with
  | some (space, name) =>
    if space.isEmpty || name.isEmpty then none
    else some (String.ofList space, String.ofList name)
  | none => none

namespace ClassDef

/-- An empty class with this dotted name. -/
def ofQualified? (qualified : String) : Option ClassDef :=
  (splitQualified? qualified).map fun (space, name) => { space := space, name := name }

/-- The name that identifies the class. -/
def qualifiedName (c : ClassDef) : String :=
  if c.space.isEmpty then c.name else c.space ++ "." ++ c.name

/-- The key of a member of the class. -/
def memberKey (c : ClassDef) (member : String) : String := c.qualifiedName ++ ":" ++ member

/-- The first constructor of the class. -/
def constructor? (c : ClassDef) : Option Method := c.methods.find? (·.isConstructor)

/-- The shape of the class: the first of its marks decides, and a class without a constructor
is an interface. -/
def kind (c : ClassDef) : ClassKind :=
  if c.isEnum.getD false then .enum
  else if c.isInterface.getD false then .interface
  else if c.isAbstract.getD false then .abstractClass
  else if c.constructor?.isNone then .interface
  else .concreteClass

end ClassDef

end ClassRecovery
