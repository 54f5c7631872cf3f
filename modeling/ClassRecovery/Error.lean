import ClassRecovery.Model.Registry
import ClassRecovery.Text.Quoted

/-!
# Why an extraction fails

The causes of failure and their texts. Lines are counted from one. A lookup that finds nothing
while documentation is absorbed is not a failure.
-/

set_option autoImplicit false

namespace ClassRecovery

/-- Why the documentation does not describe classes. -/
inductive DocumentError
  /-- The dotted name of a compound has no namespace or no name. -/
  | unqualifiedCompound (name : String)
  | unnamedMember (className : String)
  | unnamedParameter (className member : String)
  deriving DecidableEq, Repr

/-- The text of a cause. -/
def DocumentError.message : DocumentError → String
  | .unqualifiedCompound name => "compound name without namespace: " ++ Text.Quoted.write name
  | .unnamedMember className => "member without name in " ++ className
  | .unnamedParameter className member =>
    "parameter without declname in " ++ className ++ "." ++ member

/-- Why a configuration is refused. -/
inductive ConfigError
  /-- The text is not TOML, or a value has the wrong type. -/
  | malformed
  | blankIgnoreEntry (entry : String)
  | emptyIgnoreFile
  deriving DecidableEq, Repr

/-- The text of a cause. -/
def ConfigError.message : ConfigError → String
  | .malformed => "not a configuration in TOML"
  | .blankIgnoreEntry entry =>
    "ignore entries must not be blank (got " ++ Text.Quoted.write entry ++ ")"
  | .emptyIgnoreFile => "ignore_file must not be empty"

/-- Why a file cannot be read or written. -/
inductive FileError
  | notFound
  | isDirectory
  | notDirectory
  | nameTooLong
  | invalidEncoding
  /-- Any other failure, with the text the system gives for it. -/
  | other (text : String)
  deriving DecidableEq, Repr

/-- The text of a cause. -/
def FileError.message : FileError → String
  | .notFound => "No such file or directory (os error 2)"
  | .isDirectory => "Is a directory (os error 21)"
  | .notDirectory => "Not a directory (os error 20)"
  | .nameTooLong => "File name too long (os error 36)"
  | .invalidEncoding => "stream did not contain valid UTF-8"
  | .other text => text

/-- Why an extraction fails. -/
inductive Error
  /-- A line of the dump fits no shape. -/
  | unrecognizedLine (line : Nat) (text : String)
  /-- A construct of the dump is never closed. -/
  | unterminated (start : Nat) (terminator : String)
  /-- The documentation does not describe classes. -/
  | unrecognizedDocument (cause : DocumentError)
  /-- The documentation is not well-formed XML. -/
  | malformedDocument
  | registry (cause : RegistryError)
  /-- A text or value is not a model. -/
  | serialization
  | config (cause : ConfigError)
  | file (cause : FileError)
  deriving DecidableEq, Repr

namespace Error

/-- The line at this place, counted from zero, fits no shape. -/
def unrecognizedAt (index : Nat) (text : String) : Error := .unrecognizedLine (index + 1) text

/-- The construct opened at this place, counted from zero, is never closed. -/
def unterminatedAt (index : Nat) (terminator : String) : Error :=
  .unterminated (index + 1) terminator

/-- The text of a failure. -/
def message : Error → String
  | unrecognizedLine line text => "Unsupported line " ++ toString line ++ ": " ++ text
  | unterminated start terminator =>
    "Could not find match for '" ++ terminator ++ "' after line " ++ toString start
  | unrecognizedDocument cause => "Unsupported documentation shape: " ++ cause.message
  | malformedDocument => "Invalid documentation XML"
  | registry cause => cause.message
  | serialization => "Serialization error"
  | config cause => "Invalid configuration: " ++ cause.message
  | file cause => "IO error: " ++ cause.message

/-- The input does not follow the fixed grammar of dumps and documentation. -/
def isGrammarMismatch : Error → Bool
  | unrecognizedLine .. | unterminated .. | unrecognizedDocument .. => true
  | _ => false

end Error

end ClassRecovery
