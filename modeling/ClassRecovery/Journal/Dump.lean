import ClassRecovery.Extraction
import ClassRecovery.Journal.Event

/-!
# The course of a run

What a run over a dump tells. The events of a step are told from the state before it, and what
happened before a failure is told as well.
-/

set_option autoImplicit false

namespace ClassRecovery.Journal

open ClassRecovery.Dump

/-- The member is passed over. -/
def memberEvents (ignore : IgnoreList) (c : ClassDef) (name : String) : List Event :=
  let key := c.memberKey name
  if ignore.contains key then [.memberIgnored key] else []

/-- The members of a bulk call that are passed over, up to the first line that is none. -/
def listEvents (st : State) (varId : String) (members : List Dump.Member × Option Error) :
    List Event :=
  match (st.registry.findByVar? varId).bind st.registry.get? with
  | some c => members.1.flatMap fun member => memberEvents st.ignore c member.name
  | none => []

/-- A class is registered or passed over at its constructor. -/
def constructorEvents (st : State) (varId : String) : List Event :=
  match st.current with
  | some (.declared c) | some (.detached c) =>
    if st.ignore.contains c.qualifiedName then [.classIgnored c.qualifiedName]
    else [.classRegistered c.qualifiedName varId]
  | _ => []

/-- A static member of the class being read is passed over. -/
def staticEvents (st : State) (member : String) : List Event :=
  match st.currentClass? with
  | some c => memberEvents st.ignore c member
  | none => []

/-- A line of an initializer block is passed over. -/
def initializerEvents (st : State) (line : String) : List Event :=
  let statement := InitializerLine.ofLine line
  let declares :=
    (statement.receiver.bind st.registry.findByVar?).isSome && statement.property?.isSome
  match statement.receiver with
  | some receiver =>
    if st.ignore.contains receiver && !(declares && !statement.isAssignment) then
      [.receiverIgnored receiver]
    else []
  | none => []

/-- What happens when a recognized line is applied to a state. -/
def shapeEvents (st : State) (index : Nat) (rest : List String) : LineShape → List Event
  | .globalAssignment target value =>
    if st.ignore.contains target || st.ignore.contains value then [.globalIgnored target] else []
  | .constructor varId _ =>
    match cutFunction index rest with
    | .ok _ => constructorEvents st varId
    | .error _ => []
  | .staticMethod member _ =>
    match cutFunction index rest with
    | .ok _ => staticEvents st member
    | .error _ => []
  | .staticProperty member _ => staticEvents st member
  | .classBlock varId =>
    match cutAtClosing? (startsWith "\t\x7d") rest with
    | some (body, closing) =>
      if (closingTrailer? closing).isSome then listEvents st varId (readBlock (index + 1) body)
      else []
    | none => []
  | .classInline varId members _ | .interfaceInline varId members _
  | .enumInline varId members _ => listEvents st varId (readInline index members)
  | .initializerBlock =>
    match cutAtClosing? (startsWith "\t\x7d)();") rest with
    | some (body, _) => body.flatMap (initializerEvents st)
    | none => []
  | _ => []

/-- What happens when the line at this place is read. -/
def stepEvents (st : State) (index : Nat) (line : String) (rest : List String) : List Event :=
  match classify st.scope line with
  | some shape => .lineRead (index + 1) shape.label :: shapeEvents st index rest shape
  | none => []

/-- What happens while the lines from this place on are read, after the events so far in
reverse. -/
def runEventsFrom (cleaner : Cleaner) (events : List Event) :
    Nat → Nat → State → List String → List Event
  | _, _, st, [] =>
    (.dumpRead st.registry.size st.globals.length st.assembly :: events).reverse
  | skip + 1, index, st, _ :: rest => runEventsFrom cleaner events skip (index + 1) st rest
  | 0, index, st, line :: rest =>
    let events := (stepEvents st index line rest).reverse ++ events
    match step cleaner st index line rest with
    | .ok (next, read) => runEventsFrom cleaner events read (index + 1) next rest
    | .error _ => events.reverse

/-- What happens while a dump is read. -/
def runEvents (cleaner : Cleaner) (ignore : IgnoreList) (lines : List String) : List Event :=
  runEventsFrom cleaner [] 0 0 { ignore := ignore } lines

end ClassRecovery.Journal
