import ClassRecovery.Documentation.Compound
import ClassRecovery.Proofs.Model.Duplicates
import Mathlib.Data.List.Find
import Mathlib.Tactic.MkIffOfInductiveProp

/-!
# What documentation accounts for

Every member of a compound has its part in the class: what it adds is told by the member alone and
by the name of the class, and the class has the parts of all its members in document order
(`documented`). Reading fails exactly if a name is missing that the account needs (`Fault`), and
else the classes are those of the compounds, of which the last one of a name counts
(`ofTree_accounts`).
-/

set_option autoImplicit false

namespace ClassRecovery.Documentation

open Xml

/-! ## Members -/

/-- The member is a property, a field or an event. -/
def IsStored (member : Node) : Prop :=
  member.attribute? "kind" = some "property" ∨ member.attribute? "kind" = some "variable" ∨
    member.attribute? "kind" = some "event"

instance (member : Node) : Decidable (IsStored member) := inferInstanceAs (Decidable (_ ∨ _))

/-- The member is a function. -/
def IsFunction (member : Node) : Prop := member.attribute? "kind" = some "function"

instance (member : Node) : Decidable (IsFunction member) := inferInstanceAs (Decidable (_ = _))

/-- The name of a member without type parameters. -/
def nameOf (member : Node) : String := withoutTypeParams (textOf (member.child? "name"))

/-- The type of a member, unless it is unknown. -/
def typeOf (className : String) (member : Node) : Option String :=
  nonEmpty (memberType className (nameOf member) member)

/-- The parameters that are documented for a function. -/
def parameterNodes (member : Node) : List Node := member.childrenTagged "param"

/-- A parameter of a function. -/
def parameterOf (param : Node) : Property :=
  let type := textOf (param.child? "type")
  { name := textOf (param.child? "declname")
    typeName := nonEmpty (TypeText.normalize type)
    isRest := some (restMark.toList.isPrefixOf type.toList) }

/-- A method that a member stands for. -/
def methodOf (member : Node) (name : String) (params : List Property)
    (returnType : Option String) : Method :=
  { name := name
    params := params
    returnType := returnType
    description := nonEmpty (textOf (member.child? "briefdescription"))
    protection := some (Protection.ofAttribute ((member.attribute? "prot").getD ""))
    isStatic := some (member.attribute? "static" == some "yes") }

/-- The properties that a member adds to its class. -/
def propertiesOf (className : String) (member : Node) : List Property :=
  if IsStored member then
    [{ name := nameOf member
       typeName := typeOf className member
       description := nonEmpty (textOf (member.child? "briefdescription")) }]
  else []

/-- The methods that a member adds to its class: the accessors of a property under both spellings,
or the one method of a function, which has no name if it is named like the class. -/
def methodsOf (className : String) (member : Node) : List Method :=
  let name := nameOf member
  let type := typeOf className member
  let value : Property := { name := "value", typeName := type }
  if IsStored member then
    [methodOf member ("get_" ++ name) [] type, methodOf member ("get_$" ++ name) [] type,
     methodOf member ("set_" ++ name) [value] (some "void"),
     methodOf member ("set_$" ++ name) [value] (some "void")]
  else if IsFunction member then
    [methodOf member (if name = className then "" else name)
      ((parameterNodes member).map parameterOf) type]
  else []

/-- The links that a member adds to its class: the references of its type and, for a function, of
the types of its parameters. -/
def linksOf (member : Node) : List String :=
  references (member.child? "type") ++
    if IsFunction member then
      (parameterNodes member).flatMap fun param => references (param.child? "type")
    else []

/-- The member has a name, and so have the parameters if it is a function. -/
def IsNamed (member : Node) : Prop :=
  member.child? "name" ≠ none ∧
    (IsFunction member → ∀ param ∈ parameterNodes member, param.child? "declname" ≠ none)

variable {className : String} {member compound root : Node} {docs : Registry}

theorem kind_eq_stored_iff : MemberKind.of member = .stored ↔ IsStored member := by
  unfold MemberKind.of IsStored
  split <;> simp_all

theorem kind_eq_function_iff : MemberKind.of member = .function ↔ IsFunction member := by
  unfold MemberKind.of IsFunction
  split <;> simp_all

/-- No member is of both kinds. -/
theorem IsStored.not_isFunction (h : IsStored member) : ¬ IsFunction member := by
  rw [← kind_eq_function_iff, kind_eq_stored_iff.mpr h]
  exact nofun

theorem paramOf_eq_ok_iff {name : String} {param : Node} {p : Property} :
    paramOf className name param = .ok p ↔
      param.child? "declname" ≠ none ∧ p = parameterOf param := by
  unfold paramOf parameterOf
  cases param.child? "declname" <;> simp [eq_comm]

/-- The part of a member in its class. -/
def partOf (className : String) (member : Node) : Contribution :=
  { links := linksOf member
    properties := propertiesOf className member
    methods := methodsOf className member }

theorem type_memberDoc :
    nonEmpty (memberDoc className (nameOf member) member).typeName = typeOf className member := by
  rw [typeOf, memberDoc]

theorem method_memberDoc (name : String) (params : List Property) (returnType : String) :
    (memberDoc className (nameOf member) member).method name params returnType
      = methodOf member name params (nonEmpty returnType) := rfl

theorem property_memberDoc (h : IsStored member) :
    [(memberDoc className (nameOf member) member).property] = propertiesOf className member := by
  rw [MemberDoc.property, type_memberDoc, propertiesOf, if_pos h, memberDoc]

theorem accessors_memberDoc (h : IsStored member) :
    (memberDoc className (nameOf member) member).accessors = methodsOf className member := by
  have hvoid : nonEmpty "void" = some "void" := by decide
  have hname : (memberDoc className (nameOf member) member).name = nameOf member := rfl
  simp only [MemberDoc.accessors, MemberDoc.valueParam, method_memberDoc, type_memberDoc, hvoid,
    hname, methodsOf, if_pos h]

theorem partOf_of_stored (h : IsStored member) :
    partOf className member =
      { links := references (member.child? "type")
        properties := [(memberDoc className (nameOf member) member).property]
        methods := (memberDoc className (nameOf member) member).accessors } := by
  rw [accessors_memberDoc h, property_memberDoc h, partOf, linksOf, if_neg h.not_isFunction,
    List.append_nil]

theorem partOf_of_other (hstored : ¬ IsStored member) (hfunction : ¬ IsFunction member) :
    partOf className member = { links := references (member.child? "type") } := by
  rw [partOf, linksOf, propertiesOf, methodsOf, if_neg hfunction, if_neg hstored, if_neg hstored,
    if_neg hfunction, List.append_nil]

theorem partOf_of_function (h : IsFunction member) :
    partOf className member =
      { links := references (member.child? "type") ++
          (parameterNodes member).flatMap fun param => references (param.child? "type")
        methods := [(memberDoc className (nameOf member) member).method
          (if nameOf member = className then "" else nameOf member)
          ((parameterNodes member).map parameterOf)
          (memberDoc className (nameOf member) member).typeName] } := by
  have hstored : ¬ IsStored member := fun hstored => hstored.not_isFunction h
  rw [partOf, linksOf, propertiesOf, methodsOf, if_pos h, if_neg hstored, if_neg hstored, if_pos h,
    method_memberDoc, type_memberDoc]

theorem mapM_paramOf_eq_ok_iff {name : String} {params : List Property} :
    (member.childrenTagged "param").mapM (paramOf className name) = .ok params ↔
      (∀ param ∈ parameterNodes member, param.child? "declname" ≠ none) ∧
        params = (parameterNodes member).map parameterOf :=
  mapM_eq_ok_iff fun _ _ => paramOf_eq_ok_iff

/-- What is read of a member is its part, if it has the names that are needed. -/
theorem contribution_eq_ok_iff {added : Contribution} :
    contribution className member = .ok added ↔
      IsNamed member ∧ added = partOf className member := by
  unfold contribution memberName? IsNamed
  cases hname : member.child? "name" with
  | none => simp
  | some node =>
      have hnameOf : withoutTypeParams (textOf (some node)) = nameOf member := by
        rw [nameOf, hname]
      simp only [Option.map_some, hnameOf, ne_eq, reduceCtorEq, not_false_eq_true, true_and]
      cases hkind : MemberKind.of member with
      | stored =>
          have hstored := kind_eq_stored_iff.mp hkind
          rw [partOf_of_stored hstored]
          simp [hstored.not_isFunction, eq_comm]
      | function =>
          have hfunction := kind_eq_function_iff.mp hkind
          simp only [bind_eq_ok_iff, mapM_paramOf_eq_ok_iff, partOf_of_function hfunction]
          constructor
          · rintro ⟨params, ⟨hnamed, rfl⟩, h⟩
            cases h
            exact ⟨fun _ => hnamed, by simp only [beq_iff_eq, parameterNodes]⟩
          · rintro ⟨hnamed, rfl⟩
            exact ⟨_, ⟨hnamed hfunction, rfl⟩, by simp only [beq_iff_eq, parameterNodes]; rfl⟩
      | other kind =>
          have hstored : ¬ IsStored member := by rw [← kind_eq_stored_iff, hkind]; exact nofun
          have hfunction : ¬ IsFunction member := by rw [← kind_eq_function_iff, hkind]; exact nofun
          rw [partOf_of_other hstored hfunction]
          simp [hfunction, eq_comm]

/-! ## Compounds -/

/-- A dotted name with something on either side of its last dot. -/
def IsQualified (q : String) : Prop :=
  ∃ space name, space ++ "." ++ name = q ∧ space ≠ "" ∧ name ≠ "" ∧ '.' ∉ name.toList

/-- The namespace and the name of the class of a compound. -/
def nameParts (compound : Node) : String × String :=
  (splitQualified? (dottedName compound)).getD ("", "")

/-- The class that a compound documents: what it says itself, and the parts of its members in
document order. -/
def documented (compound : Node) : ClassDef :=
  let name := (nameParts compound).2
  { space := (nameParts compound).1
    name := name
    docId := compound.attribute? "id"
    properties := (membersOf compound).flatMap (propertiesOf name)
    methods := (membersOf compound).flatMap (methodsOf name)
    links := (membersOf compound).flatMap linksOf
    isAbstract := some (compound.attribute? "abstract" == some "yes")
    isInterface := if compound.attribute? "kind" = some "interface" then some true else none }

/-- The compound and its members have the names they need. -/
@[mk_iff]
structure IsComplete (compound : Node) : Prop where
  qualified : IsQualified (dottedName compound)
  named : ∀ member ∈ membersOf compound, IsNamed member

theorem foldl_addTo (added : List Contribution) (c : ClassDef) :
    added.foldl (fun c contribution => contribution.addTo c) c =
      { c with
        links := c.links ++ added.flatMap Contribution.links
        properties := c.properties ++ added.flatMap Contribution.properties
        methods := c.methods ++ added.flatMap Contribution.methods } := by
  induction added generalizing c with
  | nil => simp
  | cons contribution rest ih =>
      rw [List.foldl_cons, ih]
      simp only [Contribution.addTo, List.flatMap_cons, List.append_assoc]

/-- A name is cut exactly if it is qualified. -/
theorem isQualified_iff {q : String} : IsQualified q ↔ ∃ parts, splitQualified? q = some parts := by
  simp only [Prod.exists, ClassDef.splitQualified?_eq_some_iff]
  rfl

theorem classOf_eq_ok_iff {c : ClassDef} :
    classOf compound = .ok c ↔
      IsComplete compound ∧ c = { documented compound with isInterface := none } := by
  rw [classOf, emptyClass, isComplete_iff]
  cases hsplit : splitQualified? (dottedName compound) with
  | none => simp [isQualified_iff, hsplit, bind, Except.bind]
  | some parts =>
      have hqualified : IsQualified (dottedName compound) := isQualified_iff.mpr ⟨parts, hsplit⟩
      simp only [ok_bind, bind_eq_ok_iff, mapM_eq_ok_iff fun _ _ => contribution_eq_ok_iff,
        foldl_addTo]
      constructor
      · rintro ⟨added, ⟨hnamed, rfl⟩, h⟩
        cases h
        refine ⟨⟨hqualified, hnamed⟩, ?_⟩
        simp [documented, nameParts, hsplit, List.flatMap_map, partOf]
      · rintro ⟨⟨-, hnamed⟩, rfl⟩
        refine ⟨_, ⟨hnamed, rfl⟩, ?_⟩
        simp [documented, nameParts, hsplit, List.flatMap_map, partOf, pure, Except.pure]

/-- The compound describes a class or an interface. -/
def IsDescription (compound : Node) : Prop :=
  compound.attribute? "kind" = some "class" ∨ compound.attribute? "kind" = some "interface"

instance (compound : Node) : Decidable (IsDescription compound) :=
  inferInstanceAs (Decidable (_ ∨ _))

theorem kind_eq_ordinary_iff :
    CompoundKind.of compound = .ordinary ↔ compound.attribute? "kind" = some "class" := by
  unfold CompoundKind.of
  split <;> simp_all

theorem kind_eq_interface_iff :
    CompoundKind.of compound = .interface ↔ compound.attribute? "kind" = some "interface" := by
  unfold CompoundKind.of
  split <;> simp_all

/-- A compound of another kind has no class, and any other has the one that it documents, if it is
complete. -/
theorem class?_eq_ok_iff {found : Option ClassDef} :
    class? compound = .ok found ↔
      (IsDescription compound → IsComplete compound) ∧
        found = if IsDescription compound then some (documented compound) else none := by
  unfold class?
  cases hkind : CompoundKind.of compound with
  | ordinary =>
      have hclass := kind_eq_ordinary_iff.mp hkind
      have hdescription : IsDescription compound := .inl hclass
      have hsame : { documented compound with isInterface := none } = documented compound := by
        simp [documented, hclass]
      simp only [bind_eq_ok_iff, classOf_eq_ok_iff, hsame, if_pos hdescription]
      constructor
      · rintro ⟨c, ⟨hcomplete, rfl⟩, h⟩
        cases h
        exact ⟨fun _ => hcomplete, rfl⟩
      · rintro ⟨hcomplete, rfl⟩
        exact ⟨_, ⟨hcomplete hdescription, rfl⟩, rfl⟩
  | interface =>
      have hinterface := kind_eq_interface_iff.mp hkind
      have hdescription : IsDescription compound := .inr hinterface
      have hsame : { documented compound with isInterface := some true } = documented compound := by
        simp [documented, hinterface]
      simp only [bind_eq_ok_iff, classOf_eq_ok_iff, if_pos hdescription]
      generalize documented compound = c at hsame
      constructor
      · rintro ⟨d, ⟨hcomplete, rfl⟩, h⟩
        cases h
        exact ⟨fun _ => hcomplete, congrArg some hsame⟩
      · rintro ⟨hcomplete, rfl⟩
        refine ⟨{ c with isInterface := none }, ⟨hcomplete hdescription, rfl⟩, ?_⟩
        exact congrArg (fun d => (.ok (some d) : Except DocumentError (Option ClassDef))) hsame
  | other kind =>
      have hnot : ¬ IsDescription compound := by
        rw [IsDescription, ← kind_eq_ordinary_iff, ← kind_eq_interface_iff, hkind]
        simp
      rw [if_neg hnot, Except.ok.injEq, eq_comm]
      exact ⟨fun h => ⟨fun hdescription => absurd hdescription hnot, h⟩, And.right⟩

/-! ## Documentation as a whole -/

/-- The compounds that describe classes and interfaces, in document order. -/
def descriptionsOf (root : Node) : List Node :=
  (compoundsOf root).filter fun compound => IsDescription compound

/-- The documentation is read exactly if all descriptions are complete, and it is the registry of
the classes that they document. -/
theorem ofTree_eq_ok_iff :
    ofTree root = .ok docs ↔
      (∀ compound ∈ descriptionsOf root, IsComplete compound) ∧
        docs = Registry.ofList ((descriptionsOf root).map documented) := by
  have hfound : ((compoundsOf root).map fun compound =>
        if IsDescription compound then some (documented compound) else none).filterMap id
      = (descriptionsOf root).map documented := by
    rw [List.filterMap_map, descriptionsOf, ← List.filterMap_eq_map, List.filterMap_filter]
    simp only [decide_eq_true_eq, Function.comp_def, id_eq]
  have hcomplete : (∀ compound ∈ descriptionsOf root, IsComplete compound) ↔
      ∀ compound ∈ compoundsOf root, IsDescription compound → IsComplete compound := by
    simp only [descriptionsOf, List.mem_filter, decide_eq_true_eq, and_imp]
  rw [hcomplete, ← hfound, ofTree]
  simp only [bind_eq_ok_iff, mapM_eq_ok_iff fun _ _ => class?_eq_ok_iff]
  constructor
  · rintro ⟨found, ⟨hall, rfl⟩, h⟩
    cases h
    exact ⟨hall, rfl⟩
  · rintro ⟨hall, rfl⟩
    exact ⟨_, ⟨hall, rfl⟩, rfl⟩

theorem qualifiedName_documented (h : IsComplete compound) :
    (documented compound).qualifiedName = dottedName compound := by
  obtain ⟨⟨space, name⟩, hsplit⟩ := isQualified_iff.mp h.qualified
  have hparts : nameParts compound = (space, name) := by rw [nameParts, hsplit]; rfl
  refine ClassDef.qualifiedName_of_splitQualified? ?_
  rw [hsplit, documented, hparts]

/-- The last class of a name is that of the last compound of the name. -/
theorem find?_documented {compounds : List Node}
    (hcomplete : ∀ compound ∈ compounds, IsComplete compound) (name : String) :
    ((compounds.map documented).reverse.find? fun c => c.qualifiedName == name)
      = (compounds.reverse.find? fun compound => dottedName compound == name).map documented := by
  rw [← List.map_reverse, List.find?_map]
  refine congrArg (Option.map documented) (List.find?_congr fun compound hmem => ?_)
  have hname := qualifiedName_documented (hcomplete compound (List.mem_reverse.mp hmem))
  rw [Function.comp_apply, hname]

/-- Why a compound cannot be read. -/
inductive Fault (compound : Node) : Prop
  /-- Its dotted name has no namespace or no name. -/
  | unqualified (h : ¬ IsQualified (dottedName compound))
  | unnamedMember {member : Node} (hmember : member ∈ membersOf compound)
      (h : member.child? "name" = none)
  | unnamedParameter {member param : Node} (hmember : member ∈ membersOf compound)
      (hfunction : IsFunction member) (hparam : param ∈ parameterNodes member)
      (h : param.child? "declname" = none)

/-- A compound without fault is complete. -/
theorem fault_iff : Fault compound ↔ ¬ IsComplete compound := by
  constructor
  · rintro (h | ⟨hmember, h⟩ | ⟨hmember, hfunction, hparam, h⟩) ⟨hqualified, hnamed⟩
    · exact h hqualified
    · exact (hnamed _ hmember).1 h
    · exact (hnamed _ hmember).2 hfunction _ hparam h
  · intro h
    by_contra hnone
    refine h ⟨?_, fun member hmember => ⟨fun hname => ?_, fun hfunction param hparam hname => ?_⟩⟩
    · by_contra hqualified
      exact hnone (.unqualified hqualified)
    · exact hnone (.unnamedMember hmember hname)
    · exact hnone (.unnamedParameter hmember hfunction hparam hname)

/-- A function stands for one method with its parameters. The method has no name if the function is
named like the class, or has no name itself. -/
theorem methodsOf_function (h : IsFunction member) (className : String) :
    ∃ m, methodsOf className member = [m] ∧
      (m.name = "" ↔ nameOf member = className ∨ nameOf member = "") ∧
      m.params = (parameterNodes member).map parameterOf := by
  have hstored : ¬ IsStored member := fun hstored => hstored.not_isFunction h
  refine ⟨_, by rw [methodsOf, if_neg hstored, if_pos h], ?_, rfl⟩
  show (if nameOf member = className then "" else nameOf member) = "" ↔ _
  by_cases hname : nameOf member = className
  · simp [hname]
  · simp [hname]

/-- The registry has the classes that the compounds document. -/
structure Accounts (root : Node) (docs : Registry) : Prop where
  /-- There is one class for each dotted name, in the order in which the names first appear. -/
  names : docs.names = ((descriptionsOf root).map dottedName).eraseDups
  distinct : docs.names.Nodup
  /-- The class of a name is the one that the last compound of the name documents. -/
  classes : docs.classes.map some = docs.names.map fun name =>
    ((descriptionsOf root).reverse.find? fun compound => dottedName compound == name).map documented
  /-- A function is one method with its parameters, and a constructor exactly if it is named like the
  class or has no name. -/
  functions : ∀ compound ∈ descriptionsOf root, ∀ member ∈ membersOf compound, IsFunction member →
    ∃ m, methodsOf (documented compound).name member = [m] ∧
      (m.name = "" ↔ nameOf member = (documented compound).name ∨ nameOf member = "") ∧
      m.params = (parameterNodes member).map parameterOf

/-- **Accounting for documentation.** Of any tree, the documentation is refused exactly if one of its
descriptions has a fault, and else its registry has the classes that the descriptions document. -/
theorem ofTree_accounts (root : Node) :
    ((∃ failure, ofTree root = .error failure) ↔
        ∃ compound ∈ descriptionsOf root, Fault compound) ∧
      ∀ docs, ofTree root = .ok docs → Accounts root docs := by
  constructor
  · have hok : (∃ docs, ofTree root = .ok docs) ↔
        ∀ compound ∈ descriptionsOf root, IsComplete compound := by
      simp only [ofTree_eq_ok_iff, exists_and_left, exists_eq, and_true]
    have hnot : (∃ failure, ofTree root = .error failure) ↔ ¬ ∃ docs, ofTree root = .ok docs := by
      cases ofTree root <;> simp
    simp only [hnot, hok, fault_iff, not_forall, exists_prop]
  · intro docs h
    obtain ⟨hcomplete, rfl⟩ := ofTree_eq_ok_iff.mp h
    refine ⟨?_, Registry.nodup_names_ofList _, ?_,
      fun compound _ member _ hfunction => methodsOf_function hfunction _⟩
    · have hname := fun compound hmem => qualifiedName_documented (hcomplete compound hmem)
      rw [Registry.names_ofList, List.map_map, Function.comp_def, List.map_congr_left hname]
    · rw [Registry.classes_ofList, ← Registry.names_ofList]
      exact List.map_congr_left fun name _ => find?_documented hcomplete name

/-- An element with a text in it. -/
def leaf (tag content : String) : Node := .element tag [] [.text content]

/-- A class that is described twice, with an interface and a namespace in between; the members of the
second description stand in two sections. -/
def describedTwice : Node :=
  .element "doxygen" []
    [.element "compounddef" [("kind", "class"), ("id", "a")] [leaf "compoundname" "N::A"],
     .element "compounddef" [("kind", "namespace")] [],
     .element "compounddef" [("kind", "interface")] [leaf "compoundname" "N::I"],
     .element "compounddef" [("kind", "class")]
       [leaf "compoundname" "N::A",
        .element "sectiondef" []
          [.element "memberdef" [("kind", "event")]
             [.element "type" [] [.element "ref" [("refid", "b")] [.text "B"]], leaf "name" "X"]],
        .element "sectiondef" []
          [.element "memberdef" [("kind", "function")]
             [leaf "name" "A",
              .element "param" []
                [.element "type" [] [.element "ref" [("refid", "c")] [.text "C"]],
                 leaf "declname" "c"]],
           .element "memberdef" [("kind", "enum")] [leaf "name" "E"]]]]

theorem ofTree_accounts_of_describedTwice :
    (∃ docs, ofTree describedTwice = .ok docs ∧ Accounts describedTwice docs) ∧
      (ofTree describedTwice).map (fun docs => docs.classes.map fun c =>
          (c.qualifiedName, c.docId, c.methods.map Method.name, c.links)) =
        .ok [("N.A", none, ["get_X", "get_$X", "set_X", "set_$X", ""], ["b", "c"]),
             ("N.I", none, [], [])] := by
  refine ⟨exists_ok_and (by decide +kernel) (ofTree_accounts describedTwice).2, ?_⟩
  decide +kernel

/-- A function whose name is nothing but type parameters. -/
def namelessFunction : Node := .element "memberdef" [("kind", "function")] [leaf "name" "<T>"]

/-- Its class. -/
def withNamelessFunction : Node :=
  .element "doxygen" []
    [.element "compounddef" [("kind", "class")]
      [leaf "compoundname" "N::A", .element "sectiondef" [] [namelessFunction]]]

/-- A function without a name of its own is a constructor, though it is not named like its class. -/
theorem constructor_of_namelessFunction :
    (descriptionsOf withNamelessFunction).flatMap membersOf = [namelessFunction] ∧
      nameOf namelessFunction ≠ "A" ∧
      (ofTree withNamelessFunction).map (fun docs => docs.classes.map fun c =>
          (c.name, c.methods.map Method.name)) = .ok [("A", [""])] := by
  exact ⟨rfl, by decide +kernel, by decide +kernel⟩

end ClassRecovery.Documentation
