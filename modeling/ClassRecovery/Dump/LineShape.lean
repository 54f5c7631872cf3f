/-!
# Shapes of top-level lines

A generated script, the *dump*, is the fixed output of one generator: each of its top-level
lines has one of seventeen shapes. A shape carries the parts of the line that matter; the lines
of a construct that spans several are read when its opening line has been recognized.
-/

set_option autoImplicit false

namespace ClassRecovery.Dump

/-- What is known of the class being read when a line is classified. -/
structure Scope where
  /-- A class has been named since the last separator. -/
  hasClass : Bool := false
  /-- The variable of that class, once its constructor has been read. -/
  varId : Option String := none
  deriving DecidableEq, Repr, Inhabited

/-- A recognized top-level line. -/
inductive LineShape
  /-- The module wrapper, strict mode, the assembly variable, metadata. -/
  | boilerplate
  /-- An assignment `global.<target> = <value>;`. -/
  | globalAssignment (target value : String)
  /-- A directive `global.<anything>;` that assigns nothing. -/
  | globalDirective
  /-- The opening line of a block on `global.` or `$.fn.`. -/
  | globalBlock
  /-- The prototypes of secondary constructors. -/
  | constructorPrototype
  /-- The name of the assembly. -/
  | assembly (name : String)
  /-- The rule between two classes. -/
  | separator
  /-- The comment that names the next class. -/
  | className (qualified : String)
  /-- The opening line of a constructor. -/
  | constructor (varId params : String)
  /-- The opening line of a static method. -/
  | staticMethod (member params : String)
  /-- A static property with its value. -/
  | staticProperty (member value : String)
  /-- The opening line of a member block. -/
  | classBlock (varId : String)
  /-- A member list on one line. -/
  | classInline (varId members trailer : String)
  /-- A member list of an interface. -/
  | interfaceInline (varId members trailer : String)
  /-- The number of type parameters of a generic class or interface. -/
  | genericArity (varId : String) (arity : UInt32)
  /-- The values of an enumeration. -/
  | enumInline (varId members : String) (flags : Bool)
  /-- The opening line of an initializer block. -/
  | initializerBlock
  deriving DecidableEq, Repr

/-- A short name of the shape. -/
def LineShape.label : LineShape → String
  | .boilerplate => "boilerplate"
  | .globalAssignment .. => "global assignment"
  | .globalDirective => "global directive"
  | .globalBlock => "global block"
  | .constructorPrototype => "constructor prototype"
  | .assembly .. => "assembly"
  | .separator => "separator"
  | .className .. => "class name"
  | .constructor .. => "constructor"
  | .staticMethod .. => "static method"
  | .staticProperty .. => "static property"
  | .classBlock .. => "class block"
  | .classInline .. => "class"
  | .interfaceInline .. => "interface"
  | .genericArity .. => "generic arity"
  | .enumInline .. => "enum"
  | .initializerBlock => "initializer block"

end ClassRecovery.Dump
