import ClassRecovery.Proofs.Documentation.Account

/-!
# What documentation tells

The documented classes have distinct names, since of several with one name only the last one counts
(`names_nodup_of_ofText`). A property of a class is documented with its type and its description;
whether it takes the rest of the arguments is told of parameters only (`isRest_of_ofText`).
-/

set_option autoImplicit false

namespace ClassRecovery.Documentation

open Xml

variable {xml : String} {compound : Node} {docs : Registry}

/-! ## Documentation as a whole -/

/-- The documentation of a text is the registry of the classes that its compounds document. -/
theorem exists_tree_of_ofText (h : ofText xml = .ok docs) :
    ∃ root, Xml.parse? xml = some root ∧
      (∀ compound ∈ descriptionsOf root, IsComplete compound) ∧
      docs = Registry.ofList ((descriptionsOf root).map documented) := by
  unfold ofText at h
  cases hroot : Xml.parse? xml with
  | none =>
      rw [hroot] at h
      cases h
  | some root =>
      rw [hroot] at h
      exact ⟨root, rfl, ofTree_eq_ok_iff.mp (mapError_eq_ok_iff.mp h)⟩

/-- The documented classes have distinct names. -/
theorem names_nodup_of_ofText (h : ofText xml = .ok docs) : docs.names.Nodup := by
  obtain ⟨root, -, -, rfl⟩ := exists_tree_of_ofText h
  exact Registry.nodup_names_ofList _

theorem isRest_of_propertiesOf {className : String} {member : Node} :
    ∀ p ∈ propertiesOf className member, p.isRest = none := by
  unfold propertiesOf
  split
  · intro p hp
    obtain rfl := List.mem_singleton.mp hp
    rfl
  · exact List.forall_mem_nil _

/-- No documented property of a class is said to take the rest of the arguments, or not to. -/
theorem isRest_of_ofText (h : ofText xml = .ok docs) :
    ∀ c ∈ docs.classes, ∀ p ∈ c.properties, p.isRest = none := by
  obtain ⟨root, -, -, rfl⟩ := exists_tree_of_ofText h
  intro c hc p hp
  obtain ⟨compound, -, rfl⟩ := List.mem_map.mp (Registry.mem_of_mem_ofList hc)
  obtain ⟨member, -, hp⟩ := List.mem_flatMap.mp hp
  exact isRest_of_propertiesOf p hp

/-! ## The compound of a class -/

/-- The compound describes a class or an interface. -/
def describesClass (compound : Node) : Bool :=
  match CompoundKind.of compound with
  | .ordinary | .interface => true
  | .other _ => false

/-- The compound that documents the class of this name: of several the last one counts. -/
def compoundOf? (root : Node) (name : String) : Option Node :=
  (compoundsOf root).reverse.find? fun compound =>
    describesClass compound && dottedName compound == name

/-- What a compound says of its class besides members. -/
structure Describes (compound : Node) (c : ClassDef) : Prop where
  name : c.qualifiedName = dottedName compound
  isAbstract : c.isAbstract = some (compound.attribute? "abstract" == some "yes")
  isInterface : c.isInterface
    = if CompoundKind.of compound = .interface then some true else none

theorem describesClass_eq (compound : Node) :
    describesClass compound = decide (IsDescription compound) := by
  rw [Bool.eq_iff_iff, decide_eq_true_eq, describesClass, IsDescription, ← kind_eq_ordinary_iff,
    ← kind_eq_interface_iff]
  cases CompoundKind.of compound <;> simp

theorem compoundOf?_eq (root : Node) (name : String) :
    compoundOf? root name
      = (descriptionsOf root).reverse.find? fun compound => dottedName compound == name := by
  unfold compoundOf? descriptionsOf
  rw [← List.filter_reverse, List.find?_filter]
  simp only [describesClass_eq, Bool.decide_and, Bool.decide_eq_true]

theorem describes_documented (h : IsComplete compound) : Describes compound (documented compound) where
  name := qualifiedName_documented h
  isAbstract := rfl
  isInterface := by simp only [documented, kind_eq_interface_iff]

/-- The class that is documented under a name is described by the compound of that name. -/
theorem describes_of_ofText (h : ofText xml = .ok docs) :
    ∃ root, Xml.parse? xml = some root ∧ ∀ name,
      Option.Rel Describes (compoundOf? root name)
        (docs.classes.find? fun c => c.qualifiedName == name) := by
  obtain ⟨root, hroot, hcomplete, rfl⟩ := exists_tree_of_ofText h
  refine ⟨root, hroot, fun name => ?_⟩
  rw [Registry.find?_ofList, find?_documented hcomplete, compoundOf?_eq]
  cases hfound : (descriptionsOf root).reverse.find? fun compound => dottedName compound == name with
  | none => exact .none
  | some compound =>
      have hmem := List.mem_reverse.mp (List.mem_of_find?_eq_some hfound)
      exact .some (describes_documented (hcomplete compound hmem))

end ClassRecovery.Documentation
