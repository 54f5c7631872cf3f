import ClassRecovery.Dump.InitializerLine
import ClassRecovery.Dump.MemberList
import ClassRecovery.Dump.Trailer

/-!
# Reading a dump

A run reads the lines of a dump from the first to the last. Its state is the class being read,
the names ignored so far, the registry, the global statements and the name of the assembly. A
step classifies one line, applies it to the state, and says how many of the lines after it
belong to its construct.

A class on the ignore list is read like any other but never registered; its variables join the
ignore list, so that statements about them are dropped as well.
-/

set_option autoImplicit false

namespace ClassRecovery.Dump

/-! ## State -/

/-- The class that the lines being read belong to. -/
inductive Current
  /-- Named, but its constructor has not been read. -/
  | declared (c : ClassDef)
  /-- In the registry, under this handle. -/
  | registered (id : Nat)
  /-- Ignored: read but not registered. -/
  | detached (c : ClassDef)
  deriving DecidableEq, Repr

/-- The state of a run. -/
structure State where
  current : Option Current := none
  ignore : IgnoreList := {}
  registry : Registry := {}
  globals : List String := []
  assembly : String := ""
  deriving DecidableEq, Repr, Inhabited

namespace State

/-- The class being read. -/
def currentClass? (st : State) : Option ClassDef :=
  match st.current with
  | none => none
  | some (.declared c) | some (.detached c) => some c
  | some (.registered id) => st.registry.get? id

/-- What classification needs to know of the state. -/
def scope (st : State) : Scope :=
  { hasClass := st.current.isSome, varId := st.currentClass?.bind ClassDef.varId }

/-- Changes the class being read, wherever it is kept. -/
def modifyCurrent (st : State) (f : ClassDef → ClassDef) : State :=
  match st.current with
  | none => st
  | some (.declared c) => { st with current := some (.declared (f c)) }
  | some (.detached c) => { st with current := some (.detached (f c)) }
  | some (.registered id) => { st with registry := st.registry.modify id f }

/-- The state with more global statements. -/
def addGlobals (st : State) (lines : List String) : State :=
  { st with globals := st.globals ++ lines }

end State

/-- What a step leads to: the next state and how many further lines it has read. -/
abbrev StepResult := Except Error (State × Nat)

/-- A step that stays on its line. -/
def stay (st : State) : StepResult := .ok (st, 0)

/-! ## Constructors and static members -/

/-- The line that closes a constructor or a static method. -/
def functionClosing : String := "\t\x7d;"

/-- The lines of a function up to its closing line. -/
def cutFunction (index : Nat) (rest : List String) : Except Error (List String × String) :=
  cutAtClosing (· == functionClosing) "\\t\x7d;" index rest

/-- The class with a constructor whose body has these lines. -/
def addConstructor (cleaner : Cleaner) (params : String) (body : List String) (c : ClassDef) :
    ClassDef :=
  { c with
    methods := c.methods ++ [.constructor (parseParams params) (cleaner.body c body)] }

/-- The constructor of a class that is not registered yet: it is registered now, unless it is
ignored, and then its variable is. -/
def registerClass (cleaner : Cleaner) (st : State) (c : ClassDef) (varId params : String)
    (body : List String) : Except Error State :=
  let c := addConstructor cleaner params body { c with varId := some varId }
  if st.ignore.contains c.qualifiedName then
    .ok { st with current := some (.detached c), ignore := st.ignore.insert varId }
  else
    match st.registry.insert c with
    | .ok (id, registry) =>
      .ok { st with current := some (.registered id), registry := registry }
    | .error cause => .error (.registry cause)

/-- One more constructor of a registered class: its variable stands for the class as well. -/
def extendClass (cleaner : Cleaner) (st : State) (id : Nat) (varId params : String)
    (body : List String) : Except Error State :=
  match st.registry.bindVar id varId with
  | .ok registry =>
    .ok { st with registry := registry.modify id (addConstructor cleaner params body) }
  | .error cause => .error (.registry cause)

/-- A constructor from its opening to its closing line. -/
def readConstructor (cleaner : Cleaner) (st : State) (index : Nat) (line varId params : String)
    (rest : List String) : StepResult := do
  let (body, _) ← cutFunction index rest
  match st.current with
  | none => .error (.unrecognizedAt index line)
  | some (.declared c) | some (.detached c) =>
    return (← registerClass cleaner st c varId params body, body.length + 1)
  | some (.registered id) =>
    return (← extendClass cleaner st id varId params body, body.length + 1)

/-- A static method from its opening to its closing line. -/
def readStaticMethod (cleaner : Cleaner) (st : State) (index : Nat) (member params : String)
    (rest : List String) : StepResult := do
  let (body, _) ← cutFunction index rest
  let parts := FunctionParts.ofLines "\t" params body
  let add (c : ClassDef) : ClassDef :=
    if st.ignore.contains (c.memberKey member) then c
    else
      { c with
        methods := c.methods ++
          [{ name := member, params := parts.params, body := some (cleaner.body c parts.body),
             isStatic := some true, typeParams := parts.typeParams }] }
  return (st.modifyCurrent add, body.length + 1)

/-- A static property. -/
def addStaticProperty (st : State) (member value : String) : State :=
  st.modifyCurrent fun c =>
    if st.ignore.contains (c.memberKey member) then c
    else
      { c with
        properties := c.properties ++
          [{ name := member, defaultValue := some value, isStatic := some true }] }

/-! ## Bulk calls -/

/-- A bulk call on the class a variable stands for; it says nothing about any other variable. -/
def onClass (st : State) (varId : String)
    (change : Except Error (ClassDef → ClassDef)) : Except Error State :=
  match st.registry.findByVar? varId with
  | none => .ok st
  | some id => do return { st with registry := st.registry.modify id (← change) }

/-- The trailer of a member block, on its closing line. -/
def closingTrailer? (closing : String) : Option Trailer :=
  (Text.between? "\t\x7d".toList ");".toList closing.toList).bind
    fun trailer => Trailer.ofText? (String.ofList trailer)

/-- A member block from its opening to its closing line. The closing line must be well-formed
even if the variable stands for no class. -/
def readClassBlock (cleaner : Cleaner) (st : State) (index : Nat) (varId : String)
    (rest : List String) : StepResult := do
  let (body, closing) ← cutAtClosing (startsWith "\t\x7d") "\\t\x7d" index rest
  match closingTrailer? closing with
  | none => .error (.unrecognizedAt (index + 1 + body.length) closing)
  | some trailer =>
    let st ← onClass st varId do
      let members ← allMembers (readBlock (index + 1) body)
      return fun c => trailer.apply (addMembers st.ignore cleaner members c)
    return (st, body.length + 1)

/-- A member list of a class on one line. -/
def readClassInline (cleaner : Cleaner) (st : State) (index : Nat)
    (line varId members trailer : String) : StepResult := do
  let st ← onClass st varId do
    let members ← allMembers (readInline index members)
    match Trailer.ofText? trailer with
    | none => .error (.unrecognizedAt index line)
    | some trailer => return fun c => trailer.apply (addMembers st.ignore cleaner members c)
  stay st

/-- A member list of an interface on one line. -/
def readInterfaceInline (cleaner : Cleaner) (st : State) (index : Nat)
    (line varId members trailer : String) : StepResult := do
  let st ← onClass st varId do
    let members ← allMembers (readInline index members)
    match baseInterfaces? trailer with
    | none => .error (.unrecognizedAt index line)
    | some bases =>
      return fun c =>
        let c := addMembers st.ignore cleaner members c
        { c with interfaces := c.interfaces ++ bases, isInterface := some true }
  stay st

/-- The values of an enumeration on one line. -/
def readEnumInline (cleaner : Cleaner) (st : State) (index : Nat) (varId members : String)
    (flags : Bool) : StepResult := do
  let st ← onClass st varId do
    let members ← allMembers (readInline index members)
    return fun c =>
      let c := addMembers st.ignore cleaner members c
      { c with isEnum := some true, isFlags := if flags then some true else c.isFlags }
  stay st

/-! ## Global statements -/

/-- An assignment to a global, unless its target or its value is ignored. -/
def addGlobalAssignment (cleaner : Cleaner) (st : State) (line target value : String) : State :=
  if st.ignore.contains target || st.ignore.contains value then st
  else st.addGlobals [cleaner.clean line]

/-- A block on a global, with all its lines. -/
def readGlobalBlock (cleaner : Cleaner) (st : State) (index : Nat) (line : String)
    (rest : List String) : StepResult := do
  let (body, closing) ← cutAtClosing (startsWith "\t\x7d") "\\t\x7d" index rest
  return (st.addGlobals ((line :: body ++ [closing]).map cleaner.clean), body.length + 1)

/-- Keeps a line of an initializer block, unless its receiver is ignored. -/
def keepInitializerLine (cleaner : Cleaner) (st : State) (receiver : Option String)
    (line : String) : State :=
  if receiver.any st.ignore.contains then st else st.addGlobals [cleaner.clean line]

/-- A line of an initializer block. An assignment to a member of a registered class declares a
static property; unless its value is a literal, the line is kept as well, like any other line. -/
def readInitializerLine (cleaner : Cleaner) (st : State) (line : String) : State :=
  let statement := InitializerLine.ofLine line
  match statement.receiver.bind st.registry.findByVar?, statement.property? with
  | some id, some property =>
    let declared :=
      { st with
        registry := st.registry.modify id fun c =>
          { c with properties := c.properties ++ [property] } }
    if statement.isAssignment then
      keepInitializerLine cleaner declared statement.receiver line
    else declared
  | _, _ => keepInitializerLine cleaner st statement.receiver line

/-- An initializer block from its opening to its closing line. An empty statement marks where it
begins. -/
def readInitializer (cleaner : Cleaner) (st : State) (index : Nat) (rest : List String) :
    StepResult := do
  let (body, _) ← cutAtClosing (startsWith "\t\x7d)();") "\\t\x7d)();" index rest
  return (body.foldl (readInitializerLine cleaner) (st.addGlobals [""]), body.length + 1)

/-! ## Steps and runs -/

/-- Applies a recognized line, at this place, to the state; `rest` are the lines after it. -/
def apply (cleaner : Cleaner) (st : State) (index : Nat) (line : String) (rest : List String) :
    LineShape → StepResult
  | .boilerplate | .globalDirective | .constructorPrototype => stay st
  | .globalAssignment target value => stay (addGlobalAssignment cleaner st line target value)
  | .globalBlock => readGlobalBlock cleaner st index line rest
  | .assembly name => stay { st with assembly := name }
  | .separator => stay { st with current := none }
  | .className qualified =>
    match ClassDef.ofQualified? qualified with
    | some c => stay { st with current := some (.declared c) }
    | none => .error (.unrecognizedAt index line)
  | .constructor varId params => readConstructor cleaner st index line varId params rest
  | .staticMethod member params => readStaticMethod cleaner st index member params rest
  | .staticProperty member value => stay (addStaticProperty st member value)
  | .classBlock varId => readClassBlock cleaner st index varId rest
  | .classInline varId members trailer =>
    readClassInline cleaner st index line varId members trailer
  | .interfaceInline varId members trailer =>
    readInterfaceInline cleaner st index line varId members trailer
  | .genericArity varId arity => do
    stay (← onClass st varId (.ok fun c => { c with genericArity := arity }))
  | .enumInline varId members flags => readEnumInline cleaner st index varId members flags
  | .initializerBlock => readInitializer cleaner st index rest

/-- Reads the line at this place; `rest` are the lines after it. -/
def step (cleaner : Cleaner) (st : State) (index : Nat) (line : String) (rest : List String) :
    StepResult :=
  match classify st.scope line with
  | some shape => apply cleaner st index line rest shape
  | none => .error (.unrecognizedAt index line)

/-- Reads the lines from this place on, after passing over `skip` lines of a construct. -/
def runFrom (cleaner : Cleaner) : Nat → Nat → State → List String → Except Error State
  | _, _, st, [] => .ok st
  | skip + 1, index, st, _ :: rest => runFrom cleaner skip (index + 1) st rest
  | 0, index, st, line :: rest =>
    match step cleaner st index line rest with
    | .ok (next, read) => runFrom cleaner read (index + 1) next rest
    | .error failure => .error failure

/-- Reads a dump under an ignore list. -/
def run (cleaner : Cleaner) (ignore : IgnoreList) (lines : List String) : Except Error State :=
  runFrom cleaner 0 0 { ignore := ignore } lines

end ClassRecovery.Dump
