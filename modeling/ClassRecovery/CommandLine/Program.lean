import ClassRecovery.CommandLine.Arguments
import ClassRecovery.Journal.Extraction
import ClassRecovery.Model.Json

/-!
# The program

An extraction from the command line: the settings, the names to ignore, the dump and the
documentation come from files, and the model is written as JSON to standard output or to a file.
A failure is reported as what was being done and why that failed.
-/

set_option autoImplicit false

namespace ClassRecovery.CommandLine

open Journal

/-! ## Failures -/

/-- What was being done when the program failed. -/
inductive Task
  | loadConfig (path : String)
  | readIgnoreList (path : String)
  | extract (path : String)
  | write (path : String)
  deriving DecidableEq, Repr

/-- The text for a task that failed. -/
def Task.message : Task → String
  | loadConfig path => "Failed to load config " ++ path
  | readIgnoreList path => "Failed to read ignore list " ++ path
  | extract path => "Failed to extract " ++ path
  | write path => "Failed to write " ++ path

/-- The causes of a failure, the nearest first. -/
def causes : Error → List String
  | .file cause => [Error.message (.file cause), cause.message]
  | error => [error.message]

/-- A task that failed, with the causes. -/
structure Failure where
  task : Task
  causes : List String
  deriving DecidableEq, Repr

/-- A text in which every line after the first is indented. -/
def indentLines (indent : Nat) (text : String) : String :=
  String.ofList
    (text.toList.flatMap fun c =>
      if c = '\n' then '\n' :: List.replicate indent ' ' else [c])

/-- The causes as lines of a report; several ones are numbered. -/
def causeLines : List String → List String
  | [cause] => ["    " ++ indentLines 4 cause]
  | many => many.zipIdx.map fun (cause, number) =>
    String.ofList (List.replicate (5 - (toString number).length) ' ') ++ toString number ++ ": "
      ++ indentLines 7 cause

/-- The report of a failure. -/
def Failure.report (failure : Failure) : String :=
  "Error: " ++ failure.task.message ++ "\n\nCaused by:\n"
    ++ String.join ((causeLines failure.causes).map (· ++ "\n"))

/-! ## Running -/

/-- What a run of the program leaves behind. -/
structure Outcome where
  exitCode : UInt32
  output : String := ""
  /-- The report of a failure, or a word of advice. -/
  report : String := ""
  events : List Event := []
  deriving Repr

/-- The name and version of the program. -/
def versionText : String := "salt2type 0.1.0\n"

/-- How the program is used. -/
def usageText : String :=
  "Recover a typed class model from Script# output\n\n"
    ++ "Usage: salt2type [-v] [-q] extract --source <SOURCE> [--docs <DOCS>] "
    ++ "[--ignore <IGNORE>] [--config <CONFIG>] [-o <OUTPUT>] [--pretty]\n"

/-- The number of classes of each kind that occurs, in the order of the labels. -/
def kindCounts (model : RecoveredModel) : List (String × Nat) :=
  let count (kind : ClassKind) := (model.classes.filter fun c => c.kind == kind).length
  [("abstract classes", count .abstractClass), ("classes", count .concreteClass),
   ("enums", count .enum), ("interfaces", count .interface)].filter fun entry => entry.2 != 0

/-- A run that may fail, telling events. -/
abbrev Run (m : Type → Type) (α : Type) := ExceptT Failure (StateT (List Event) m) α

section Files

variable {m : Type → Type} [Monad m] (files : Files m)

/-- Tells events. -/
def tell (events : List Event) : Run m Unit := modify (· ++ events)

/-- Does something that may fail as part of a task. -/
def during {α : Type} (task : Task) (action : ExceptT Error m α) : Run m α := do
  match ← (action.run : m (Except Error α)) with
  | .ok value => return value
  | .error cause => throw { task := task, causes := causes cause }

/-- The settings of the run. -/
def settings (options : Options) : Run m Config :=
  match options.config with
  | some path => during (.loadConfig path) (Extraction.loadConfig files path)
  | none => return {}

/-- The names on the lines of a text; blank lines name nothing. -/
def namesOf (text : String) : List String :=
  ((Text.lines text).map Text.trimmed).filter (!·.isEmpty)

/-- The settings with the names of the ignore list of the command line. -/
def withIgnoreList (options : Options) (config : Config) : Run m Config :=
  match options.ignore with
  | none => return config
  | some path => do
    match ← (files.readText path : m (Except FileError String)) with
    | .error cause => throw { task := .readIgnoreList path, causes := [cause.message] }
    | .ok text =>
      let names := namesOf text
      tell [.ignoreEntriesRead names.length path]
      return { config with ignore := config.ignore ++ names }

/-- What is told while a dump and its documentation are read and their model is recovered. -/
def fileEvents (config : Config) (source : String) (docs : Option String) : m (List Event) := do
  match ← files.readText source with
  | .error _ => return [.dumpOpened source]
  | .ok dump =>
    match docs with
    | none => return .dumpOpened source :: (← extractionEvents files config dump none)
    | some path =>
      match ← files.readText path with
      | .error _ => return [.dumpOpened source, .documentationOpened path]
      | .ok text =>
        let events ← extractionEvents files config dump (some text)
        return .dumpOpened source :: .documentationOpened path :: events

/-- Writes a model to the output file, if there is one, and answers what is left for standard
output. -/
def deliver (options : Options) (model : RecoveredModel) : Run m String := do
  let text := model.print options.isPretty ++ "\n"
  match options.output with
  | none => return text
  | some path =>
    match ← (files.writeText path text : m (Except FileError Unit)) with
    | .error cause => throw { task := .write path, causes := [cause.message] }
    | .ok () =>
      tell [.modelWritten path]
      return ""

/-- Extracts a model and delivers it. -/
def extractModel (source : String) (options : Options) : Run m String := do
  let config ← withIgnoreList files options (← settings files options)
  tell (← (fileEvents files config source options.docs : m (List Event)))
  let model ← during (.extract source) (Extraction.runFiles files config source options.docs)
  tell [.kindsCounted model.assembly (kindCounts model)]
  deliver files options model

/-- Does what a request asks for. -/
def Request.run : Request → m Outcome
  | .version => return { exitCode := 0, output := versionText }
  | .help => return { exitCode := 0, output := usageText }
  | .misuse => return { exitCode := 2, report := usageText }
  | .extract source options _ => do
    let (result, events) ← ((extractModel files source options).run.run [] :
      m (Except Failure String × List Event))
    match result with
    | .ok output => return { exitCode := 0, output := output, events := events }
    | .error failure => return { exitCode := 1, report := failure.report, events := events }

end Files

end ClassRecovery.CommandLine
