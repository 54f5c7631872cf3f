import ClassRecovery.Model.Registry
import ClassRecovery.Names

/-!
# Fusing documentation into structure

The structural side decides what exists; the documentation adds types, descriptions, access
levels and staticness. A documented name without counterpart is passed over, except that a
documented property is appended to its class under the name it would have in the script.
-/

set_option autoImplicit false

namespace ClassRecovery.Fusion

/-- How many things a pass touched. -/
structure Stats where
  classes : Nat := 0
  methods : Nat := 0
  params : Nat := 0
  properties : Nat := 0
  /-- Documented properties without counterpart, appended as new members. -/
  appended : Nat := 0
  deriving DecidableEq, Repr, Inhabited

/-- Two counts together. -/
def Stats.add (a b : Stats) : Stats :=
  { classes := a.classes + b.classes
    methods := a.methods + b.methods
    params := a.params + b.params
    properties := a.properties + b.properties
    appended := a.appended + b.appended }

/-! ## Members -/

/-- A property with what its documentation says of it. -/
def absorbProperty (target doc : Property) : Property :=
  { target with
    typeName := doc.typeName
    description := doc.description
    isRest := doc.isRest }

/-- The parameters with what the documentation says of one of them, and whether it is known. -/
def absorbParam (params : List Property) (doc : Property) : List Property × Nat :=
  match Names.findProperty? params doc.name with
  | some place => (params.modify place fun p => absorbProperty p doc, 1)
  | none => (params, 0)

/-- The parameters with all that the documentation says of them, and how many it knows. -/
def absorbParams (params docs : List Property) : List Property × Nat :=
  docs.foldl
    (fun (params, count) doc =>
      let (params, known) := absorbParam params doc
      (params, count + known))
    (params, 0)

/-- A method with what its documentation says of it, its parameters aside. A method that either
side calls static is static. -/
def absorbSignature (target doc : Method) : Method :=
  { target with
    returnType := doc.returnType
    description := doc.description
    protection := doc.protection
    isStatic := some (target.isStatic.getD false || doc.isStatic.getD false) }

/-- A method with its documentation. -/
def absorbMethod (target doc : Method) : Method :=
  { absorbSignature target doc with params := (absorbParams target.params doc.params).1 }

/-- The methods with the documentation of one of them, and what that touched. -/
def mergeMethod (methods : List Method) (doc : Method) : List Method × Stats :=
  match Names.findMethod? methods doc.name doc.arity with
  | none => (methods, {})
  | some place =>
    let known := (methods[place]?.map fun m => (absorbParams m.params doc.params).2).getD 0
    (methods.modify place fun m => absorbMethod m doc, { methods := 1, params := known })

/-- The property that stands for a documented one without counterpart. -/
def appendedProperty (doc : Property) : Property :=
  { name := String.ofList (Names.structuralName doc.name.toList)
    typeName := doc.typeName
    description := doc.description
    isRest := doc.isRest
    isStatic := some false }

/-- The documented name is that of an indexer. -/
def isIndexerName (name : String) : Bool := indexerMark.toList.isPrefixOf name.toList

/-- The properties with the documentation of one of them, and what that touched. An indexer is
never appended. -/
def mergeProperty (properties : List Property) (doc : Property) : List Property × Stats :=
  match Names.findProperty? properties doc.name with
  | some place => (properties.modify place fun p => absorbProperty p doc, { properties := 1 })
  | none =>
    if isIndexerName doc.name then (properties, {})
    else (properties ++ [appendedProperty doc], { appended := 1 })

/-- Absorbs documented members one after the other, counting what each of them touches. -/
def mergeAll {α : Type} (merge : List α → α → List α × Stats) (members docs : List α) :
    List α × Stats :=
  docs.foldl
    (fun (members, stats) doc =>
      let (members, touched) := merge members doc
      (members, stats.add touched))
    (members, {})

/-! ## Classes -/

/-- A class with its documentation, and what that touched. -/
def mergeClass (c doc : ClassDef) : ClassDef × Stats :=
  let (methods, methodStats) := mergeAll mergeMethod c.methods doc.methods
  let (properties, propertyStats) := mergeAll mergeProperty c.properties doc.properties
  ({ c with
      methods := methods
      properties := properties
      links := c.links ++ doc.links
      isAbstract := doc.isAbstract
      isInterface := c.isInterface.or doc.isInterface },
   ({ classes := 1 } : Stats).add (methodStats.add propertyStats))

/-- The registry with the documentation of one class, and what that touched. -/
def fuseClass (r : Registry) (doc : ClassDef) : Registry × Stats :=
  match r.findByName? doc.qualifiedName with
  | none => (r, {})
  | some id =>
    let known := r.setDocId id doc.docId
    match known.get? id with
    | none => (known, {})
    | some c => (known.modify id fun c => (mergeClass c doc).1, (mergeClass c doc).2)

/-- The registry with the documentation of all its classes, and what that touched. -/
def fuse (r docs : Registry) : Registry × Stats :=
  docs.classes.foldl
    (fun (r, stats) doc =>
      let (r, touched) := fuseClass r doc
      (r, stats.add touched))
    (r, {})

end ClassRecovery.Fusion
