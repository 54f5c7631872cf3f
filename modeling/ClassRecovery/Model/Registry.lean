import ClassRecovery.Model.ClassDef

/-!
# The registry of classes

Classes in the order they were found, never removed, with three indexes: by qualified name, by
variable and by documentation identifier. A position in the list is the handle of a class. The
indexes are derived data: `rebuildIndexes` computes them from the list, where a later class wins.

The indexes are not always what a rebuild would give. A class may be bound to several variables
but records only the last one, and an operation that changes the record of a class through
`modify` leaves the indexes alone.
-/

set_option autoImplicit false

namespace ClassRecovery

/-! ## Indexes -/

/-- A finite map from names to handles; the newest entry of a name counts. -/
structure Index where
  entries : List (String × Nat) := []
  deriving DecidableEq, Repr, Inhabited

namespace Index

/-- The handle of a name. -/
def find? (index : Index) (key : String) : Option Nat := index.entries.lookup key

/-- The index in which `key` stands for `id`. -/
def bind (index : Index) (key : String) (id : Nat) : Index := ⟨(key, id) :: index.entries⟩

/-- The index in which an optional key, if there is one, stands for `id`. -/
def bindSome (index : Index) (key : Option String) (id : Nat) : Index :=
  match key with
  | some key => index.bind key id
  | none => index

/-- The index in which `key` stands for nothing. -/
def unbind (index : Index) (key : String) : Index :=
  ⟨index.entries.filter fun entry => entry.1 != key⟩

end Index

/-! ## The registry -/

/-- Why a registry refuses an operation. -/
inductive RegistryError
  /-- The variable already stands for another class. -/
  | duplicateVariable (varId existing incoming : String)
  /-- No class has this handle. -/
  | unknownClass (id : Nat)
  deriving DecidableEq, Repr

/-- The text of a refusal. -/
def RegistryError.message : RegistryError → String
  | .duplicateVariable varId existing incoming =>
    "Variable '" ++ varId ++ "' already bound to " ++ existing ++ ", cannot bind it to " ++ incoming
  | .unknownClass id => "Unknown class id: " ++ toString id

/-- Classes in discovery order with their indexes. -/
structure Registry where
  classes : List ClassDef := []
  byName : Index := {}
  byVar : Index := {}
  byDoc : Index := {}
  deriving DecidableEq, Repr, Inhabited

namespace Registry

/-- The number of classes. -/
def size (r : Registry) : Nat := r.classes.length

/-- The class with this handle. -/
def get? (r : Registry) (id : Nat) : Option ClassDef := r.classes[id]?

/-- The qualified name of the class with this handle, empty if there is none. -/
def nameOf (r : Registry) (id : Nat) : String := ((r.get? id).map ClassDef.qualifiedName).getD ""

/-- The handle of the class with this qualified name. -/
def findByName? (r : Registry) (qualified : String) : Option Nat := r.byName.find? qualified

/-- The handle of the class that this variable stands for. -/
def findByVar? (r : Registry) (varId : String) : Option Nat := r.byVar.find? varId

/-- The handle of the class with this documentation identifier. -/
def findByDoc? (r : Registry) (docId : String) : Option Nat := r.byDoc.find? docId

/-- The indexes with the entries of one more class. -/
def addToIndexes (r : Registry) (id : Nat) (c : ClassDef) : Registry :=
  { r with
    byName := r.byName.bind c.qualifiedName id
    byVar := r.byVar.bindSome c.varId id
    byDoc := r.byDoc.bindSome c.docId id }

/-- The registry with one more class at the end. -/
def append (r : Registry) (c : ClassDef) : Registry :=
  { r.addToIndexes r.size c with classes := r.classes ++ [c] }

/-- The indexes computed from the classes; a later class wins. -/
def rebuildIndexes (r : Registry) : Registry :=
  r.classes.zipIdx.foldl (fun acc entry => acc.addToIndexes entry.2 entry.1)
    { classes := r.classes }

/-- Registers a new class, unless its variable already stands for another one. -/
def insert (r : Registry) (c : ClassDef) : Except RegistryError (Nat × Registry) :=
  match c.varId.bind fun varId => (r.findByVar? varId).map fun id => (varId, id) with
  | some (varId, id) => .error (.duplicateVariable varId (r.nameOf id) c.qualifiedName)
  | none => .ok (r.size, r.append c)

/-- Registers a class, in the place of the class with its qualified name if there is one. -/
def upsert (r : Registry) (c : ClassDef) : Nat × Registry :=
  match r.findByName? c.qualifiedName with
  | some id => (id, { r with classes := r.classes.set id c }.rebuildIndexes)
  | none => (r.size, r.append c)

/-- Changes the record of a class and leaves the indexes alone. -/
def modify (r : Registry) (id : Nat) (f : ClassDef → ClassDef) : Registry :=
  { r with classes := r.classes.modify id f }

/-- Changes the record of every class and leaves the indexes alone. -/
def modifyAll (r : Registry) (f : ClassDef → ClassDef) : Registry :=
  { r with classes := r.classes.map f }

/-- Binds one more variable to a class; the class records the last one. -/
def bindVar (r : Registry) (id : Nat) (varId : String) : Except RegistryError Registry :=
  if r.size ≤ id then .error (.unknownClass id)
  else
    match r.findByVar? varId with
    | some existing =>
      if existing = id then .ok (bound r)
      else .error (.duplicateVariable varId (r.nameOf existing) (r.nameOf id))
    | none => .ok (bound r)
where
  /-- The registry after a binding that is allowed. -/
  bound (r : Registry) : Registry :=
    { r.modify id (fun c => { c with varId := some varId }) with
      byVar := r.byVar.bind varId id }

/-- Sets the documentation identifier of a class. The entry of the old one goes if it still
stands for this class. -/
def setDocId (r : Registry) (id : Nat) (docId : Option String) : Registry :=
  match r.get? id with
  | none => r
  | some c =>
    let freed :=
      match c.docId with
      | some old => if r.byDoc.find? old = some id then r.byDoc.unbind old else r.byDoc
      | none => r.byDoc
    { r.modify id (fun c => { c with docId := docId }) with byDoc := freed.bindSome docId id }

/-- The class a link refers to: by documentation identifier, by variable, then by name. -/
def resolve? (r : Registry) (link : String) : Option ClassDef :=
  ((r.findByDoc? link).or ((r.findByVar? link).or (r.findByName? link))).bind r.get?

/-- The links of a class, each with the class it refers to. -/
def linkedClasses (r : Registry) (id : Nat) : List (String × Option ClassDef) :=
  match r.get? id with
  | some c => c.links.map fun link => (link, r.resolve? link)
  | none => []

/-- The registry of a list of classes: of several with one qualified name the last one counts,
in the place of the first. -/
def ofList (classes : List ClassDef) : Registry :=
  classes.foldl (fun r c => (r.upsert c).2) {}

end Registry

end ClassRecovery
