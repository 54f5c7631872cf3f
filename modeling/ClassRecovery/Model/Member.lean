/-!
# Members of a class

Properties (which also serve as parameters) and methods. A field that is `none` is unknown: the
generated script does not tell types, and the documentation does not tell bodies.

The name of a method doubles as a marker: the empty name is the constructor, a name that begins
with `operator ` a conversion, and one that begins with `this[` an indexer.
-/

set_option autoImplicit false

namespace ClassRecovery

/-- A field, a property or a parameter. -/
structure Property where
  name : String
  /-- The literal the member starts with, as it stands in the script. -/
  defaultValue : Option String := none
  /-- The normalized type. -/
  typeName : Option String := none
  description : Option String := none
  isRest : Option Bool := none
  isStatic : Option Bool := none
  deriving DecidableEq, Repr, Inhabited

/-- The property takes the rest of the arguments; unknown counts as no. -/
def Property.takesRest (p : Property) : Bool := p.isRest.getD false

/-- The access level the documentation reports. -/
inductive Protection
  | isPublic
  | isProtected
  | isPrivate
  | unknown
  deriving DecidableEq, Repr

/-- The access level of an attribute value; any word but the three keywords is unknown. -/
def Protection.ofAttribute : String → Protection
  | "public" => .isPublic
  | "protected" => .isProtected
  | "private" => .isPrivate
  | _ => .unknown

/-- A method, a constructor, a conversion or an indexer. -/
structure Method where
  name : String
  /-- The parameters in call order. -/
  params : List Property
  returnType : Option String := none
  /-- The lines of the body, known only for members of the script. -/
  body : Option (List String) := none
  description : Option String := none
  protection : Option Protection := none
  isStatic : Option Bool := none
  /-- The names of the type parameters. -/
  typeParams : Option (List String) := none
  deriving DecidableEq, Repr, Inhabited

/-- The beginning of the name of an indexer. -/
def indexerMark : String := "this["

namespace Method

/-- A constructor with a captured body. -/
def constructor (params : List Property) (body : List String) : Method :=
  { name := "", params := params, body := some body }

/-- The method is a constructor. -/
def isConstructor (m : Method) : Bool := m.name == ""

/-- The method is an implicit conversion. -/
def isConversion (m : Method) : Bool := "operator ".toList.isPrefixOf m.name.toList

/-- The method is an indexer. -/
def isIndexer (m : Method) : Bool := indexerMark.toList.isPrefixOf m.name.toList

/-- The number of parameters. -/
def arity (m : Method) : Nat := m.params.length

end Method

end ClassRecovery
