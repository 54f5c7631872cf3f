import ClassRecovery.Json.Decode
import ClassRecovery.Json.Printer
import ClassRecovery.Json.Reader
import ClassRecovery.Model.RecoveredModel

/-!
# Models as JSON

How the parts of a model are written as JSON values and read from them. A field that is unknown
is not written; lists and the number of type parameters always are. A registry is the list of
its classes, and reading one registers them one after the other, so that of several classes with
one qualified name the last one counts.
-/

set_option autoImplicit false

namespace ClassRecovery

open Json

/-! ## Members -/

namespace Property

/-- The fields of a property. -/
def fieldNames : List String :=
  ["name", "default_value", "type_name", "description", "is_rest", "is_static"]

/-- A property as a value. -/
def toJson (p : Property) : Json :=
  .object
    (("name", .string p.name)
      :: optionalField "default_value" .string p.defaultValue
      ++ optionalField "type_name" .string p.typeName
      ++ optionalField "description" .string p.description
      ++ optionalField "is_rest" .bool p.isRest
      ++ optionalField "is_static" .bool p.isStatic)

/-- The property of a value. -/
def ofJson? (value : Json) : Option Property := do
  match ← record? fieldNames value with
  | [name, defaultValue, typeName, description, isRest, isStatic] =>
    return {
      name := ← required asString? name
      defaultValue := ← optional asString? defaultValue
      typeName := ← optional asString? typeName
      description := ← optional asString? description
      isRest := ← optional asBool? isRest
      isStatic := ← optional asBool? isStatic }
  | _ => none

end Property

namespace Protection

/-- The word for an access level. -/
def word : Protection → String
  | .isPublic => "public"
  | .isProtected => "protected"
  | .isPrivate => "private"
  | .unknown => "unknown"

/-- All access levels. -/
def all : List Protection := [.isPublic, .isProtected, .isPrivate, .unknown]

/-- An access level as a value. -/
def toJson (p : Protection) : Json := .string p.word

/-- The access level with this word. -/
def ofWord? (word : String) : Option Protection := all.find? fun p => p.word == word

/-- The access level of a value: its word, or an object with the word as its only key and `null`
as its value. -/
def ofJson? : Json → Option Protection
  | .string word => ofWord? word
  | .object [(word, .null)] => ofWord? word
  | _ => none

end Protection

namespace Method

/-- The fields of a method. -/
def fieldNames : List String :=
  ["name", "params", "return_type", "body", "description", "protection", "is_static",
   "type_params"]

/-- A method as a value. -/
def toJson (m : Method) : Json :=
  .object
    (("name", .string m.name)
      :: ("params", .array (m.params.map Property.toJson))
      :: optionalField "return_type" .string m.returnType
      ++ optionalField "body" strings m.body
      ++ optionalField "description" .string m.description
      ++ optionalField "protection" Protection.toJson m.protection
      ++ optionalField "is_static" .bool m.isStatic
      ++ optionalField "type_params" strings m.typeParams)

/-- The method of a value. -/
def ofJson? (value : Json) : Option Method := do
  match ← record? fieldNames value with
  | [name, params, returnType, body, description, protection, isStatic, typeParams] =>
    return {
      name := ← required asString? name
      params := ← required (asArray? Property.ofJson?) params
      returnType := ← optional asString? returnType
      body := ← optional (asArray? asString?) body
      description := ← optional asString? description
      protection := ← optional Protection.ofJson? protection
      isStatic := ← optional asBool? isStatic
      typeParams := ← optional (asArray? asString?) typeParams }
  | _ => none

end Method

/-! ## Classes -/

/-- The word for a shape of a class. -/
def ClassKind.word : ClassKind → String
  | .enum => "enum"
  | .abstractClass => "abstract_class"
  | .interface => "interface"
  | .concreteClass => "concrete_class"

namespace ClassDef

/-- The fields of a class. -/
def fieldNames : List String :=
  ["namespace", "name", "doc_id", "methods", "properties", "links", "var_id", "base_class",
   "interfaces", "generic_arity", "is_enum", "is_flags", "is_abstract", "is_interface"]

/-- A class as a value. -/
def toJson (c : ClassDef) : Json :=
  .object
    (("namespace", .string c.space)
      :: ("name", .string c.name)
      :: optionalField "doc_id" .string c.docId
      ++ ("methods", .array (c.methods.map Method.toJson))
      :: ("properties", .array (c.properties.map Property.toJson))
      :: ("links", strings c.links)
      :: optionalField "var_id" .string c.varId
      ++ optionalField "base_class" .string c.baseClass
      ++ ("interfaces", strings c.interfaces)
      :: ("generic_arity", ofNat c.genericArity.toNat)
      :: optionalField "is_enum" .bool c.isEnum
      ++ optionalField "is_flags" .bool c.isFlags
      ++ optionalField "is_abstract" .bool c.isAbstract
      ++ optionalField "is_interface" .bool c.isInterface)

/-- The class of a value. -/
def ofJson? (value : Json) : Option ClassDef := do
  match ← record? fieldNames value with
  | [space, name, docId, methods, properties, links, varId, baseClass, interfaces, genericArity,
     isEnum, isFlags, isAbstract, isInterface] =>
    return {
      space := ← required asString? space
      name := ← required asString? name
      docId := ← optional asString? docId
      methods := ← defaulted [] (asArray? Method.ofJson?) methods
      properties := ← defaulted [] (asArray? Property.ofJson?) properties
      links := ← defaulted [] (asArray? asString?) links
      varId := ← optional asString? varId
      baseClass := ← optional asString? baseClass
      interfaces := ← defaulted [] (asArray? asString?) interfaces
      genericArity := ← defaulted 0 asUInt32? genericArity
      isEnum := ← optional asBool? isEnum
      isFlags := ← optional asBool? isFlags
      isAbstract := ← optional asBool? isAbstract
      isInterface := ← optional asBool? isInterface }
  | _ => none

end ClassDef

/-! ## Registries and models -/

namespace Registry

/-- A registry as a value. -/
def toJson (r : Registry) : Json := .array (r.classes.map ClassDef.toJson)

/-- The registry of a value. -/
def ofJson? (value : Json) : Option Registry :=
  (asArray? ClassDef.ofJson? value).map ofList

end Registry

namespace RecoveredModel

/-- The fields of a model. -/
def fieldNames : List String := ["assembly_name", "classes", "globals"]

/-- A model as a value. -/
def toJson (model : RecoveredModel) : Json :=
  .object
    [("assembly_name", .string model.assembly),
     ("classes", model.registry.toJson),
     ("globals", strings model.globals)]

/-- The model of a value. -/
def ofJson? (value : Json) : Option RecoveredModel := do
  match ← record? fieldNames value with
  | [assembly, classes, globals] =>
    return {
      assembly := ← required asString? assembly
      registry := ← required Registry.ofJson? classes
      globals := ← required (asArray? asString?) globals }
  | _ => none

/-- A model as a text, compact or pretty. -/
def print (isPretty : Bool) (model : RecoveredModel) : String := model.toJson.print isPretty

/-- The model of a text. -/
def parse? (text : String) : Option RecoveredModel := (Json.parse? text).bind ofJson?

end RecoveredModel

end ClassRecovery
