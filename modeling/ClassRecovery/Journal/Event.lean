import ClassRecovery.Fusion

/-!
# Events of an extraction

What an extraction tells about its course. An event has a level and a text; it never changes what
is extracted.
-/

set_option autoImplicit false

namespace ClassRecovery.Journal

/-- How closely one has to look to see an event. -/
inductive Level
  | trace
  | debug
  | info
  deriving DecidableEq, Repr

/-- The word for a level. -/
def Level.word : Level → String
  | .trace => "TRACE"
  | .debug => "DEBUG"
  | .info => "INFO"

/-- Something that happens during an extraction. -/
inductive Event
  /-- A line of the dump has been recognized; lines are counted from one. -/
  | lineRead (line : Nat) (label : String)
  | globalIgnored (target : String)
  | memberIgnored (key : String)
  | classIgnored (qualified : String)
  | classRegistered (qualified varId : String)
  | receiverIgnored (receiver : String)
  | dumpRead (classes globals : Nat) (assembly : String)
  | compoundSkipped (id kind : Option String)
  | memberSkipped (kind : Option String) (className member : String)
  | classReplaced (qualified : String)
  | documentationRead (classes : Nat)
  | classUnknown (qualified : String)
  | overloadGuessed (doc : String) (arity : Nat) (name : String)
  | memberUnknown (key : String)
  | fused (stats : Fusion.Stats)
  | noDocumentation
  | linkUnresolved (owner link : String)
  | modelFinished (classes methods properties : Nat)
  | dumpOpened (path : String)
  | documentationOpened (path : String)
  | ignoreFileLoaded (path : String)
  | ignoreEntriesRead (count : Nat) (path : String)
  | kindsCounted (assembly : String) (counts : List (String × Nat))
  | modelWritten (path : String)
  deriving DecidableEq, Repr

namespace Event

/-- The level of an event. -/
def level : Event → Level
  | lineRead .. => .trace
  | dumpRead .. | documentationRead .. | fused .. | noDocumentation | modelFinished ..
  | kindsCounted .. | modelWritten .. => .info
  | _ => .debug

/-- How many things there are of each kind. -/
def countsText (counts : List (String × Nat)) : String :=
  ", ".intercalate (counts.map fun (label, count) => toString count ++ " " ++ label)

/-- The text of an event. -/
def message : Event → String
  | lineRead line label => "line " ++ toString line ++ ": " ++ label
  | globalIgnored target => "Skipping ignored global " ++ target
  | memberIgnored key => "Skipping ignored member " ++ key
  | classIgnored qualified => "Skipping ignored class " ++ qualified
  | classRegistered qualified varId => "Registered class " ++ qualified ++ " as " ++ varId
  | receiverIgnored receiver => "Skipping initializer line on ignored " ++ receiver
  | dumpRead classes globals assembly =>
    "Extracted " ++ toString classes ++ " classes and " ++ toString globals
      ++ " global lines from assembly '" ++ assembly ++ "'"
  | compoundSkipped id kind =>
    "Skipping compound " ++ id.getD "?" ++ " of kind " ++ kind.getD "?"
  | memberSkipped kind className member =>
    "Skipping " ++ kind.getD "untyped" ++ " member " ++ className ++ "." ++ member
  | classReplaced qualified => "Replacing duplicate definition of " ++ qualified
  | documentationRead classes => "Read documentation for " ++ toString classes ++ " classes"
  | classUnknown qualified => "No structural class for documented " ++ qualified
  | overloadGuessed doc arity name =>
    "No overload of '" ++ doc ++ "' takes " ++ toString arity ++ " params, falling back to '"
      ++ name ++ "'"
  | memberUnknown key => "No structural member for documented " ++ key
  | fused stats =>
    "Reconciled " ++ toString stats.classes ++ " classes: " ++ toString stats.methods
      ++ " methods, " ++ toString stats.params ++ " params, " ++ toString stats.properties
      ++ " properties (" ++ toString stats.appended ++ " appended)"
  | noDocumentation => "No documentation given; types stay unknown"
  | linkUnresolved owner link => owner ++ " links to unknown type " ++ link
  | modelFinished classes methods properties =>
    "Fused model: " ++ toString classes ++ " classes, " ++ toString methods ++ " methods, "
      ++ toString properties ++ " properties"
  | dumpOpened path => "Reading dump " ++ path
  | documentationOpened path => "Reading documentation " ++ path
  | ignoreFileLoaded path => "Loaded ignore file " ++ path
  | ignoreEntriesRead count path => toString count ++ " ignore entries from " ++ path
  | kindsCounted assembly counts => "Assembly '" ++ assembly ++ "': " ++ countsText counts
  | modelWritten path => "Wrote " ++ path

/-- An event as one line of a log. -/
def line (event : Event) : String := event.level.word ++ " " ++ event.message

end Event

end ClassRecovery.Journal
