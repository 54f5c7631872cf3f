import ClassRecovery.Documentation.Member
import ClassRecovery.Text.Cut
import ClassRecovery.Xml.Document

/-!
# Documented classes

The documentation is one element whose compounds describe classes, interfaces and other things.
Each class or interface becomes a class of a registry; of several with one qualified name the
last one counts, in the place of the first.
-/

set_option autoImplicit false

namespace ClassRecovery.Documentation

open Xml

/-- The dotted name of a compound, which the documentation writes with double colons. -/
def dottedName (compound : Node) : String :=
  String.ofList
    (Text.replaceAll "::".toList ['.'] (textOf (compound.child? "compoundname")).toList)

/-- The members of a compound, section by section. -/
def membersOf (compound : Node) : List Node :=
  (compound.childrenTagged "sectiondef").flatMap fun part => part.childrenTagged "memberdef"

/-- The class of a compound before its members. -/
def emptyClass (compound : Node) : Except DocumentError ClassDef :=
  let qualified := dottedName compound
  match splitQualified? qualified with
  | none => .error (.unqualifiedCompound qualified)
  | some (space, name) =>
    .ok
      { space := space
        name := name
        docId := compound.attribute? "id"
        isAbstract := some (compound.attribute? "abstract" == some "yes") }

/-- The class of a compound. -/
def classOf (compound : Node) : Except DocumentError ClassDef := do
  let c ← emptyClass compound
  let added ← (membersOf compound).mapM (contribution c.name)
  return added.foldl (fun c contribution => contribution.addTo c) c

/-- The kinds of compounds that the documentation tells apart. -/
inductive CompoundKind
  | ordinary
  | interface
  /-- Any other kind, as the documentation writes it. -/
  | other (kind : Option String)
  deriving DecidableEq, Repr

/-- The kind of a compound. -/
def CompoundKind.of (compound : Node) : CompoundKind :=
  match compound.attribute? "kind" with
  | some "class" => .ordinary
  | some "interface" => .interface
  | kind => .other kind

/-- The class of a compound, if the compound describes one. -/
def class? (compound : Node) : Except DocumentError (Option ClassDef) :=
  match CompoundKind.of compound with
  | .ordinary => do return some (← classOf compound)
  | .interface => do return some { ← classOf compound with isInterface := some true }
  | .other _ => .ok none

/-- The compounds of the documentation. -/
def compoundsOf (root : Node) : List Node := root.childrenTagged "compounddef"

/-- The classes of a documentation tree. -/
def ofTree (root : Node) : Except DocumentError Registry := do
  let classes ← (compoundsOf root).mapM class?
  return Registry.ofList (classes.filterMap id)

/-- The classes of a documentation text. -/
def ofText (xml : String) : Except Error Registry :=
  match Xml.parse? xml with
  | none => .error .malformedDocument
  | some root => (ofTree root).mapError .unrecognizedDocument

end ClassRecovery.Documentation
