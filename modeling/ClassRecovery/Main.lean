import ClassRecovery.CommandLine.Program

/-!
# The executable

The program on the files of the system: events go to standard error, as far as the verbosity
admits them, and so does the report of a failure.
-/

set_option autoImplicit false

namespace ClassRecovery.CommandLine

/-- The cause of a failure of the file system that has this code. -/
def codedError (code : UInt32) (text : String) : FileError :=
  if code = 20 then .notDirectory
  else if code = 21 then .isDirectory
  else if code = 36 then .nameTooLong
  else .other (text ++ " (os error " ++ toString code ++ ")")

/-- The cause of a failure of the file system. -/
def fileError : IO.Error → FileError
  | .noFileOrDirectory .. => .notFound
  | .inappropriateType _ code text | .invalidArgument _ code text
  | .permissionDenied _ code text | .resourceExhausted _ code text => codedError code text
  | error => .other (toString error)

/-- Does something to a file. -/
def attempt {α : Type} (action : IO α) : IO (Except FileError α) := do
  try return .ok (← action)
  catch error => return .error (fileError error)

/-- The files of the system. -/
def systemFiles : Files IO where
  readText path := do
    match ← attempt (IO.FS.readBinFile path) with
    | .error cause => return .error cause
    | .ok content =>
      match String.fromUTF8? content with
      | some text => return .ok text
      | none => return .error .invalidEncoding
  writeText path text := attempt (IO.FS.writeFile path text)

/-- The verbosity admits an event. -/
def Verbosity.admits (verbosity : Verbosity) (event : Journal.Event) : Bool :=
  match event.level with
  | .info => !verbosity.isQuiet
  | .debug => verbosity.isVerbose && !verbosity.isQuiet
  | .trace => false

/-- The verbosity of a request. -/
def Request.verbosity : Request → Verbosity
  | .extract _ _ verbosity => verbosity
  | _ => {}

/-- Runs the program and answers its exit code. -/
def runProgram (arguments : List String) : IO UInt32 := do
  let request := Request.ofArguments arguments
  let outcome ← request.run systemFiles
  for event in outcome.events.filter request.verbosity.admits do
    IO.eprintln ("[" ++ event.level.word ++ "] " ++ event.message)
  IO.print outcome.output
  IO.eprint outcome.report
  return outcome.exitCode

end ClassRecovery.CommandLine

/-- Runs the program. -/
def main (arguments : List String) : IO UInt32 :=
  ClassRecovery.CommandLine.runProgram arguments
