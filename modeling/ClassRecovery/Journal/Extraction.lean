import ClassRecovery.Journal.Dump

/-!
# The course of an extraction

What reading documentation and fusing it into a model tell, and what a whole extraction tells.
-/

set_option autoImplicit false

namespace ClassRecovery.Journal

open ClassRecovery.Documentation

/-! ## Documentation -/

/-- The members of other kinds that are passed over, up to the first one that fails. -/
def skippedMembers (className : String) : List Xml.Node → List Event
  | [] => []
  | member :: rest =>
    match contribution className member, MemberKind.of member with
    | .error _, _ => []
    | .ok _, .other kind =>
      .memberSkipped kind className ((memberName? member).getD "")
        :: skippedMembers className rest
    | .ok _, _ => skippedMembers className rest

/-- What happens when a compound is read, before its class is registered. -/
def compoundEvents (compound : Xml.Node) : List Event :=
  match CompoundKind.of compound with
  | .other kind => [.compoundSkipped (compound.attribute? "id") kind]
  | _ =>
    match emptyClass compound with
    | .ok c => skippedMembers c.name (membersOf compound)
    | .error _ => []

/-- What happens while compounds are read into a registry. -/
def compoundsEvents (r : Registry) : List Xml.Node → List Event
  | [] => [.documentationRead r.size]
  | compound :: rest =>
    compoundEvents compound ++
      match class? compound with
      | .error _ => []
      | .ok none => compoundsEvents r rest
      | .ok (some c) =>
        (if (r.findByName? c.qualifiedName).isSome then [.classReplaced c.qualifiedName] else [])
          ++ compoundsEvents (r.upsert c).2 rest

/-- What happens while a documentation text is read. -/
def documentationEvents (xml : String) : List Event :=
  match Xml.parse? xml with
  | some root => compoundsEvents {} (compoundsOf root)
  | none => []

/-! ## Fusion -/

/-- A documented method has no counterpart, or only one that takes another number of
parameters. -/
def methodEvents (c : ClassDef) (doc : Method) : List Event :=
  match Names.findOverload? c.methods doc.name doc.arity, Names.findNamed? c.methods doc.name with
  | some _, _ => []
  | none, some place =>
    let name := (c.methods[place]?.map Method.name).getD ""
    [.overloadGuessed doc.name doc.arity name]
  | none, none => [.memberUnknown (c.memberKey doc.name)]

/-- What happens when the documentation of one class is absorbed. -/
def classEvents (r : Registry) (doc : ClassDef) : List Event :=
  match r.findByName? doc.qualifiedName with
  | none => [.classUnknown doc.qualifiedName]
  | some id =>
    match r.get? id with
    | some c => doc.methods.flatMap (methodEvents c)
    | none => []

/-- What happens when documentation is absorbed. Absorbing it renames nothing, so all classes
are looked up as they were before. -/
def fusionEvents (r docs : Registry) : List Event :=
  docs.classes.flatMap (classEvents r) ++ [.fused (Fusion.fuse r docs).2]

/-! ## Extraction -/

/-- What is told about a finished model. -/
def modelEvents (model : RecoveredModel) : List Event :=
  model.unresolvedLinks.map (fun (owner, link) => .linkUnresolved owner link)
    ++ [.modelFinished model.registry.size model.methodCount model.propertyCount]

/-- What happens while documentation, if there is any, is read and absorbed. -/
def absorbEvents (model : RecoveredModel) : Option String → List Event
  | none => [.noDocumentation]
  | some xml =>
    documentationEvents xml ++
      match Documentation.ofText xml with
      | .ok docs => fusionEvents model.registry docs
      | .error _ => []

/-- What happens during an extraction whose settings have been checked and whose ignore file has
been read. -/
def recoverEvents (config : Config) (ignoreText : Option String) (dump : String)
    (docs : Option String) : List Event :=
  let ignore := config.ignoreList ignoreText
  let lines := Text.lines dump
  runEvents config.cleaner ignore lines ++
    match Dump.recover config.cleaner ignore lines with
    | .error _ => []
    | .ok model =>
      absorbEvents model docs ++
        match Extraction.absorb model docs with
        | .ok fused => modelEvents fused.rebuildIndexes
        | .error _ => []

/-- The ignore file of the settings has been read. -/
def ignoreFileEvents (config : Config) (ignoreText : Option String) : List Event :=
  match config.ignoreFile, ignoreText with
  | some path, some _ => [.ignoreFileLoaded path]
  | _, _ => []

section Files

variable {m : Type → Type} [Monad m] (files : Files m)

/-- What happens during an extraction. -/
def extractionEvents (config : Config) (dump : String) (docs : Option String) :
    m (List Event) := do
  match config.validate with
  | .error _ => return []
  | .ok () =>
    match ← (Extraction.readIgnoreFile files config).run with
    | .error _ => return []
    | .ok ignoreText =>
      return ignoreFileEvents config ignoreText ++ recoverEvents config ignoreText dump docs

end Files

end ClassRecovery.Journal
