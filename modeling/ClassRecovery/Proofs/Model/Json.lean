import ClassRecovery.Model.Json
import ClassRecovery.Proofs.Json.Decode
import ClassRecovery.Proofs.Model.Operations

/-!
# Reading models back

Members and classes are read from the values they are written as. A model that is read back has the
classes that were written, unless two of them share a qualified name: then only the last of these is
left (`ofJson?_toJson`, `Registry.classes_ofList_eq_iff`).
-/

set_option autoImplicit false

namespace ClassRecovery

open Json

/-! ## Members -/

namespace Property

/-- The fields of a property with their values. -/
def fields (p : Property) : List (String × Option Json) :=
  [("name", some (.string p.name)), ("default_value", p.defaultValue.map .string),
   ("type_name", p.typeName.map .string), ("description", p.description.map .string),
   ("is_rest", p.isRest.map .bool), ("is_static", p.isStatic.map .bool)]

theorem toJson_eq (p : Property) : p.toJson = .object (present p.fields) := by
  unfold toJson fields
  simp only [present_nil, present_cons_some, present_cons_map, List.cons_append, List.append_assoc,
    List.append_nil]

theorem record?_toJson (p : Property) :
    record? fieldNames p.toJson = some (p.fields.map Prod.snd) := by
  rw [toJson_eq]
  exact record?_present rfl (by decide)

theorem ofJson?_toJson (p : Property) : ofJson? p.toJson = some p := by
  refine bind_of_decoded (record?_toJson p) ?_
  refine bind_of_decoded (rfl : _ = some p.name) ?_
  refine bind_of_decoded (optional_string p.defaultValue) ?_
  refine bind_of_decoded (optional_string p.typeName) ?_
  refine bind_of_decoded (optional_string p.description) ?_
  refine bind_of_decoded (optional_bool p.isRest) ?_
  exact bind_of_decoded (optional_bool p.isStatic) rfl

end Property

theorem Protection.ofJson?_toJson (p : Protection) : ofJson? p.toJson = some p := by
  cases p <;> decide

namespace Method

/-- The fields of a method with their values. -/
def fields (m : Method) : List (String × Option Json) :=
  [("name", some (.string m.name)), ("params", some (.array (m.params.map Property.toJson))),
   ("return_type", m.returnType.map .string), ("body", m.body.map strings),
   ("description", m.description.map .string),
   ("protection", m.protection.map Protection.toJson), ("is_static", m.isStatic.map .bool),
   ("type_params", m.typeParams.map strings)]

theorem toJson_eq (m : Method) : m.toJson = .object (present m.fields) := by
  unfold toJson fields
  simp only [present_nil, present_cons_some, present_cons_map, List.cons_append, List.append_assoc,
    List.append_nil]

theorem record?_toJson (m : Method) :
    record? fieldNames m.toJson = some (m.fields.map Prod.snd) := by
  rw [toJson_eq]
  exact record?_present rfl (by decide)

theorem ofJson?_toJson (m : Method) : ofJson? m.toJson = some m := by
  have hprotection := optional_map Protection.ofJson?_toJson (fun _ h => by cases h) m.protection
  refine bind_of_decoded (record?_toJson m) ?_
  refine bind_of_decoded (rfl : _ = some m.name) ?_
  refine bind_of_decoded (asArray?_map Property.ofJson?_toJson m.params) ?_
  refine bind_of_decoded (optional_string m.returnType) ?_
  refine bind_of_decoded (optional_strings m.body) ?_
  refine bind_of_decoded (optional_string m.description) ?_
  refine bind_of_decoded hprotection ?_
  refine bind_of_decoded (optional_bool m.isStatic) ?_
  exact bind_of_decoded (optional_strings m.typeParams) rfl

end Method

/-! ## Classes -/

namespace ClassDef

/-- The fields of a class with their values. -/
def fields (c : ClassDef) : List (String × Option Json) :=
  [("namespace", some (.string c.space)), ("name", some (.string c.name)),
   ("doc_id", c.docId.map .string),
   ("methods", some (.array (c.methods.map Method.toJson))),
   ("properties", some (.array (c.properties.map Property.toJson))),
   ("links", some (strings c.links)), ("var_id", c.varId.map .string),
   ("base_class", c.baseClass.map .string), ("interfaces", some (strings c.interfaces)),
   ("generic_arity", some (ofNat c.genericArity.toNat)), ("is_enum", c.isEnum.map .bool),
   ("is_flags", c.isFlags.map .bool), ("is_abstract", c.isAbstract.map .bool),
   ("is_interface", c.isInterface.map .bool)]

theorem toJson_eq (c : ClassDef) : c.toJson = .object (present c.fields) := by
  unfold toJson fields
  simp only [present_nil, present_cons_some, present_cons_map, List.cons_append, List.append_assoc,
    List.append_nil]

theorem record?_toJson (c : ClassDef) :
    record? fieldNames c.toJson = some (c.fields.map Prod.snd) := by
  rw [toJson_eq]
  exact record?_present rfl (by decide)

theorem ofJson?_toJson (c : ClassDef) : ofJson? c.toJson = some c := by
  refine bind_of_decoded (record?_toJson c) ?_
  refine bind_of_decoded (rfl : _ = some c.space) ?_
  refine bind_of_decoded (rfl : _ = some c.name) ?_
  refine bind_of_decoded (optional_string c.docId) ?_
  refine bind_of_decoded (asArray?_map Method.ofJson?_toJson c.methods) ?_
  refine bind_of_decoded (asArray?_map Property.ofJson?_toJson c.properties) ?_
  refine bind_of_decoded (asArray?_strings c.links) ?_
  refine bind_of_decoded (optional_string c.varId) ?_
  refine bind_of_decoded (optional_string c.baseClass) ?_
  refine bind_of_decoded (asArray?_strings c.interfaces) ?_
  refine bind_of_decoded (asUInt32?_ofNat c.genericArity) ?_
  refine bind_of_decoded (optional_bool c.isEnum) ?_
  refine bind_of_decoded (optional_bool c.isFlags) ?_
  refine bind_of_decoded (optional_bool c.isAbstract) ?_
  exact bind_of_decoded (optional_bool c.isInterface) rfl

end ClassDef

/-! ## Registries -/

namespace Registry

theorem ofJson?_toJson (r : Registry) : ofJson? r.toJson = some (ofList r.classes) := by
  unfold ofJson? toJson
  rw [asArray?_map ClassDef.ofJson?_toJson]
  rfl

end Registry

/-! ## Models -/

namespace RecoveredModel

/-- The fields of a model with their values. -/
def fields (model : RecoveredModel) : List (String × Option Json) :=
  [("assembly_name", some (.string model.assembly)), ("classes", some model.registry.toJson),
   ("globals", some (strings model.globals))]

theorem toJson_eq (model : RecoveredModel) : model.toJson = .object (present model.fields) := rfl

theorem record?_toJson (model : RecoveredModel) :
    record? fieldNames model.toJson = some (model.fields.map Prod.snd) := by
  rw [toJson_eq]
  exact record?_present rfl (by decide)

/-- A model that is read back has the registry of the list of its classes. -/
theorem ofJson?_toJson (model : RecoveredModel) :
    ofJson? model.toJson = some { model with registry := Registry.ofList model.classes } := by
  refine bind_of_decoded (record?_toJson model) ?_
  refine bind_of_decoded (rfl : _ = some model.assembly) ?_
  refine bind_of_decoded (Registry.ofJson?_toJson model.registry) ?_
  exact bind_of_decoded (asArray?_strings model.globals) rfl

end RecoveredModel

end ClassRecovery
