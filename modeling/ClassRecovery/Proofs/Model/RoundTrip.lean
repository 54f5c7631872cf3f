import ClassRecovery.Proofs.Json.RoundTrip
import ClassRecovery.Proofs.Model.Json

/-!
# Models as texts

The values that models are written as have texts of their own, so a model can be read back from its
text, compact or pretty: it has the same assembly, classes and globals, and its indexes are the ones
computed from its classes (`parse?_print_of_nodup`). All that is asked of it is that no two classes
share a qualified name.
-/

set_option autoImplicit false

namespace ClassRecovery

open Json

/-! ## Values of records -/

/-- A field is written if it is there. -/
def FieldWritten (field : String × Option Json) : Prop := ∀ v, field.2 = some v → v.Written

theorem fieldWritten_some {key : String} {v : Json} (h : v.Written) : FieldWritten (key, some v) :=
  fun _ heq => Option.some.inj heq ▸ h

theorem fieldWritten_map {α : Type} {key : String} {encode : α → Json}
    (h : ∀ a, (encode a).Written) (value : Option α) : FieldWritten (key, value.map encode) := by
  intro v heq
  obtain ⟨a, -, rfl⟩ := Option.map_eq_some_iff.mp heq
  exact h a

theorem written_present {fields : List (String × Option Json)}
    (h : ∀ field ∈ fields, FieldWritten field) : (Json.object (present fields)).Written := by
  refine .object fun field hfield => ?_
  obtain ⟨⟨key, value⟩, hmem, hvalue⟩ := List.mem_filterMap.mp hfield
  obtain ⟨v, rfl, rfl⟩ := Option.map_eq_some_iff.mp hvalue
  exact h _ hmem v rfl

theorem written_map {α : Type} {encode : α → Json} (h : ∀ a, (encode a).Written) (items : List α) :
    (Json.array (items.map encode)).Written := by
  refine .array fun item hitem => ?_
  obtain ⟨a, -, rfl⟩ := List.mem_map.mp hitem
  exact h a

theorem strings_written (texts : List String) : (strings texts).Written := written_map .string texts

theorem ofNat_written (n : Nat) : (Json.ofNat n).Written := .number (Reader.isLiteral_toString n)

/-! ## Members, classes and models -/

theorem Property.toJson_written (p : Property) : p.toJson.Written := by
  rw [toJson_eq]
  refine written_present ?_
  simp only [fields, List.forall_mem_cons]
  exact ⟨fieldWritten_some (.string _), fieldWritten_map .string _, fieldWritten_map .string _,
    fieldWritten_map .string _, fieldWritten_map .bool _, fieldWritten_map .bool _, nofun⟩

theorem Method.toJson_written (m : Method) : m.toJson.Written := by
  rw [toJson_eq]
  refine written_present ?_
  simp only [fields, List.forall_mem_cons]
  exact ⟨fieldWritten_some (.string _), fieldWritten_some (written_map Property.toJson_written _),
    fieldWritten_map .string _, fieldWritten_map strings_written _, fieldWritten_map .string _,
    fieldWritten_map (fun _ => .string _) _, fieldWritten_map .bool _,
    fieldWritten_map strings_written _, nofun⟩

theorem ClassDef.toJson_written (c : ClassDef) : c.toJson.Written := by
  rw [toJson_eq]
  refine written_present ?_
  simp only [fields, List.forall_mem_cons]
  exact ⟨fieldWritten_some (.string _), fieldWritten_some (.string _), fieldWritten_map .string _,
    fieldWritten_some (written_map Method.toJson_written _),
    fieldWritten_some (written_map Property.toJson_written _),
    fieldWritten_some (strings_written _), fieldWritten_map .string _, fieldWritten_map .string _,
    fieldWritten_some (strings_written _), fieldWritten_some (ofNat_written _),
    fieldWritten_map .bool _, fieldWritten_map .bool _, fieldWritten_map .bool _,
    fieldWritten_map .bool _, nofun⟩

namespace RecoveredModel

theorem toJson_written (model : RecoveredModel) : model.toJson.Written := by
  rw [toJson_eq]
  refine written_present ?_
  simp only [fields, List.forall_mem_cons]
  exact ⟨fieldWritten_some (.string _), fieldWritten_some (written_map ClassDef.toJson_written _),
    fieldWritten_some (strings_written _), nofun⟩

/-- **Reading a model back from its text.** A model whose classes have distinct qualified names is
read from its text, compact or pretty, with the same assembly, globals and classes; its indexes are
the ones computed from the classes. -/
theorem parse?_print_of_nodup (model : RecoveredModel) (isPretty : Bool)
    (distinct : (model.classes.map ClassDef.qualifiedName).Nodup) :
    parse? (model.print isPretty) = some model.rebuildIndexes ∧
      model.rebuildIndexes.assembly = model.assembly ∧
      model.rebuildIndexes.globals = model.globals ∧
      model.rebuildIndexes.classes = model.classes := by
  have hregistry : Registry.ofList model.classes = model.registry.rebuildIndexes :=
    Registry.ofList_eq_rebuildIndexes distinct
  have hclasses : model.registry.rebuildIndexes.classes = model.classes := by
    rw [Registry.rebuildIndexes_eq]
    rfl
  refine ⟨?_, rfl, rfl, hclasses⟩
  rw [parse?, print, Json.parse?_print model.toJson_written, Option.bind_some, ofJson?_toJson,
    hregistry]
  rfl

/-- Two classes with an empty list that is there, controls and other characters in their texts, and
as many type parameters as there can be; the indexes know none of them. -/
def twoClasses : RecoveredModel where
  assembly := "\x22\\\n\t\x01 é😀"
  registry :=
    { classes :=
        [{ space := "N", name := "A", varId := some "$A", docId := some "", genericArity := 4294967295
           methods := [{ name := "", params := [{ name := "x", isRest := some false }]
                         body := some [], typeParams := some [], protection := some .unknown }] },
         { space := "N", name := "B", links := ["$A"], isEnum := some true }] }
  globals := ["", "\u2028"]

theorem parse?_print_of_twoClasses :
    (twoClasses.classes.map ClassDef.qualifiedName).Nodup ∧
      parse? (twoClasses.print true) = some twoClasses.rebuildIndexes ∧
      twoClasses.rebuildIndexes.registry.findByVar? "$A" = some 0 := by
  have distinct : (twoClasses.classes.map ClassDef.qualifiedName).Nodup := by decide +kernel
  exact ⟨distinct, (parse?_print_of_nodup twoClasses true distinct).1, by decide +kernel⟩

end RecoveredModel

end ClassRecovery
