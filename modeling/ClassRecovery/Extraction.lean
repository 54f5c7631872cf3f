import ClassRecovery.Config
import ClassRecovery.Documentation.Compound
import ClassRecovery.Dump.Run
import ClassRecovery.Files.Access
import ClassRecovery.Files.Path
import ClassRecovery.Fusion
import ClassRecovery.Model.RecoveredModel

/-!
# Extraction

From a dump, and documentation if there is any, to a model. The settings are checked first, then
the ignore file is read, then the dump, then the documentation; the first failure ends the
extraction. The indexes of the finished model are those of its classes.
-/

set_option autoImplicit false

namespace ClassRecovery

/-- What a run over a dump has recovered. -/
def Dump.State.model (st : Dump.State) : RecoveredModel :=
  { assembly := st.assembly, registry := st.registry, globals := st.globals }

/-- The model of a dump. -/
def Dump.recover (cleaner : Cleaner) (ignore : IgnoreList) (lines : List String) :
    Except Error RecoveredModel :=
  (Dump.run cleaner ignore lines).map Dump.State.model

namespace Extraction

/-- The model with the documentation absorbed, if there is any. -/
def absorb (model : RecoveredModel) (docs : Option String) : Except Error RecoveredModel :=
  match docs with
  | none => .ok model
  | some xml => do
    let documented ← Documentation.ofText xml
    return { model with registry := (Fusion.fuse model.registry documented).1 }

/-- The model of a dump and its documentation; the settings have been checked and the ignore
file, if there is one, has been read. -/
def recover (config : Config) (ignoreText : Option String) (dump : String)
    (docs : Option String) : Except Error RecoveredModel := do
  let model ← Dump.recover config.cleaner (config.ignoreList ignoreText) (Text.lines dump)
  let fused ← absorb model docs
  return fused.rebuildIndexes

section Files

variable {m : Type → Type} [Monad m] (files : Files m)

/-- The text of a file. -/
def readFile (path : String) : ExceptT Error m String := do
  match ← files.readText path with
  | .ok text => return text
  | .error cause => throw (.file cause)

/-- The text of the ignore file of the settings, if they name one. -/
def readIgnoreFile (config : Config) : ExceptT Error m (Option String) := do
  match config.ignoreFile with
  | some path => return some (← readFile files path)
  | none => return none

/-- The names that the settings ignore. -/
def ignoreList (config : Config) : ExceptT Error m IgnoreList := do
  return config.ignoreList (← readIgnoreFile files config)

/-- The model of a dump and its documentation. -/
def run (config : Config) (dump : String) (docs : Option String) :
    ExceptT Error m RecoveredModel := do
  match config.validate with
  | .error cause => throw (.config cause)
  | .ok () =>
    let ignoreText ← readIgnoreFile files config
    recover config ignoreText dump docs

/-- The model of a dump and its documentation in files; both are read before anything else. -/
def runFiles (config : Config) (dump : String) (docs : Option String) :
    ExceptT Error m RecoveredModel := do
  let dumpText ← readFile files dump
  let docsText ← docs.mapM fun path => readFile files path
  run files config dumpText docsText

/-- The settings in a file. An ignore file they name is looked up from the directory of the
settings. -/
def loadConfig (path : String) : ExceptT Error m Config := do
  match Config.ofToml (← readFile files path) with
  | .error cause => throw (.config cause)
  | .ok config =>
    return { config with ignoreFile := config.ignoreFile.map (Path.join (Path.parent path)) }

end Files

end Extraction

end ClassRecovery
