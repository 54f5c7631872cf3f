import ClassRecovery.Model.Registry

/-!
# Recovered models

All that is recovered from a dump: the name of the assembly, the classes, and the global
statements in source order, where an empty one marks the beginning of an initializer block.
-/

set_option autoImplicit false

namespace ClassRecovery

/-- What is recovered from a dump, with or without documentation. -/
structure RecoveredModel where
  assembly : String := ""
  registry : Registry := {}
  globals : List String := []
  deriving DecidableEq, Repr, Inhabited

namespace RecoveredModel

/-- The classes in discovery order. -/
def classes (model : RecoveredModel) : List ClassDef := model.registry.classes

/-- The number of methods of all classes. -/
def methodCount (model : RecoveredModel) : Nat :=
  model.classes.foldl (fun total c => total + c.methods.length) 0

/-- The number of properties of all classes. -/
def propertyCount (model : RecoveredModel) : Nat :=
  model.classes.foldl (fun total c => total + c.properties.length) 0

/-- The links that refer to no class, each with the qualified name of the class that has it. -/
def unresolvedLinks (model : RecoveredModel) : List (String × String) :=
  model.classes.flatMap fun c =>
    (c.links.filter fun link => (model.registry.resolve? link).isNone).map
      fun link => (c.qualifiedName, link)

/-- The model with its indexes computed from its classes. -/
def rebuildIndexes (model : RecoveredModel) : RecoveredModel :=
  { model with registry := model.registry.rebuildIndexes }

end RecoveredModel

end ClassRecovery
