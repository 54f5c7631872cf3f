import ClassRecovery.Dump.Cleaner
import ClassRecovery.Dump.IgnoreList
import ClassRecovery.Error
import ClassRecovery.Json.Decode
import ClassRecovery.Toml.Document

/-!
# Configuration

What an extraction leaves out and how it cleans captured lines. A configuration is written as a
TOML document whose keys may all be missing; a key it does not know is passed over. An ignore
entry may not be blank, and the name of an ignore file may not be empty.
-/

set_option autoImplicit false

namespace ClassRecovery

/-- The settings of an extraction. -/
structure Config where
  /-- Names to ignore. -/
  ignore : List String := []
  /-- A file with further names to ignore, one on each line. -/
  ignoreFile : Option String := none
  cleanGenericCalls : Bool := true
  cleanSelfReferences : Bool := true
  deriving DecidableEq, Repr, Inhabited

namespace Config

/-- The settings that keep captured lines as they are. -/
def raw : Config := { cleanGenericCalls := false, cleanSelfReferences := false }

/-- How captured lines are cleaned. -/
def cleaner (config : Config) : Cleaner :=
  { genericCalls := config.cleanGenericCalls, selfReferences := config.cleanSelfReferences }

/-- The names to ignore, with the text of the ignore file if there is one. -/
def ignoreList (config : Config) (fileText : Option String) : IgnoreList :=
  match fileText with
  | some text => (IgnoreList.ofList config.ignore).extend text
  | none => IgnoreList.ofList config.ignore

/-- Whether the settings make sense; of two faults the blank entry is told first. -/
def validate (config : Config) : Except ConfigError Unit :=
  match config.ignore.find? fun entry => (Text.trimmed entry).isEmpty with
  | some entry => .error (.blankIgnoreEntry entry)
  | none => if config.ignoreFile = some "" then .error .emptyIgnoreFile else .ok ()

/-! ## Reading -/

/-- The strings of an array. -/
def stringsOf? : Toml.Value → Option (List String)
  | .array items => items.mapM fun item =>
    match item with
    | .string text => some text
    | _ => none
  | _ => none

/-- The text of a string. -/
def stringOf? : Toml.Value → Option String
  | .string text => some text
  | _ => none

/-- A truth value. -/
def booleanOf? : Toml.Value → Option Bool
  | .boolean value => some value
  | _ => none

/-- The setting of a key, with a value for the case that the key is missing. -/
def setting {α : Type} (entries : Toml.Entries) (key : String) (missing : α)
    (decode : Toml.Value → Option α) : Option α :=
  match entries.get? key with
  | none => some missing
  | some value => decode value

/-- The settings of a table. -/
def ofEntries? (entries : Toml.Entries) : Option Config := do
  return {
    ignore := ← setting entries "ignore" [] stringsOf?
    ignoreFile := ← setting entries "ignore_file" none fun value => (stringOf? value).map some
    cleanGenericCalls := ← setting entries "rewrite_generic_calls" true booleanOf?
    cleanSelfReferences := ← setting entries "rewrite_self_references" true booleanOf? }

/-- The settings of a TOML document, if they make sense. -/
def ofToml (text : String) : Except ConfigError Config :=
  match (Toml.parse? text).bind ofEntries? with
  | none => .error .malformed
  | some config => config.validate.map fun _ => config

/-- The fields of settings in JSON. -/
def fieldNames : List String :=
  ["ignore", "ignore_file", "rewrite_generic_calls", "rewrite_self_references"]

/-- The settings as a JSON value. -/
def toJson (config : Config) : Json :=
  .object
    [("ignore", Json.strings config.ignore),
     ("ignore_file", (config.ignoreFile.map Json.string).getD .null),
     ("rewrite_generic_calls", .bool config.cleanGenericCalls),
     ("rewrite_self_references", .bool config.cleanSelfReferences)]

/-- The settings of a JSON value. -/
def ofJson? (value : Json) : Option Config := do
  match ← Json.record? fieldNames value with
  | [ignore, ignoreFile, cleanGenericCalls, cleanSelfReferences] =>
    return {
      ignore := ← Json.defaulted [] (Json.asArray? Json.asString?) ignore
      ignoreFile := ← Json.optional Json.asString? ignoreFile
      cleanGenericCalls := ← Json.defaulted true Json.asBool? cleanGenericCalls
      cleanSelfReferences := ← Json.defaulted true Json.asBool? cleanSelfReferences }
  | _ => none

end Config

end ClassRecovery
