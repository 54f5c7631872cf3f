import ClassRecovery.Error
import ClassRecovery.Text.Blank
import ClassRecovery.TypeText
import ClassRecovery.Xml.Tree

/-!
# Documented members

What one documented member adds to its class: links to the types it mentions, and properties and
methods. A property, a field or an event is added as a property and as the four accessor methods
under which a script may carry it. A function is added as a method, and as the constructor if it
is named like its class. Members of other kinds add their links only.
-/

set_option autoImplicit false

namespace ClassRecovery.Documentation

open Xml

/-! ## Texts of nodes -/

/-- The trimmed text below a node; a missing node has none. -/
def textOf (node : Option Node) : String := (node.map fun n => Text.trimmed n.allText).getD ""

/-- The references among the children of a type. -/
def references (type : Option Node) : List String :=
  match type with
  | some node => (node.childrenTagged "ref").filterMap (·.attribute? "refid")
  | none => []

/-- A name without type parameters: `Convert <T>` is `Convert`. -/
def withoutTypeParams (name : String) : String :=
  let chars := name.toList
  if ['>'].isSuffixOf chars && chars.contains '<' then
    String.ofList (Text.trimRight (chars.takeWhile (· != '<')))
  else name

/-- A text unless it is empty. -/
def nonEmpty (text : String) : Option String := if text.isEmpty then none else some text

/-! ## Members -/

/-- What all definitions of one member share. -/
structure MemberDoc where
  name : String
  /-- The normalized type, empty if it is unknown. -/
  typeName : String
  description : String
  protection : Protection
  isStatic : Bool
  deriving DecidableEq, Repr

namespace MemberDoc

/-- A method of the member. -/
def method (doc : MemberDoc) (name : String) (params : List Property) (returnType : String) :
    Method :=
  { name := name
    params := params
    returnType := nonEmpty returnType
    description := nonEmpty doc.description
    protection := some doc.protection
    isStatic := some doc.isStatic }

/-- The property of the member. -/
def property (doc : MemberDoc) : Property :=
  { name := doc.name
    typeName := nonEmpty doc.typeName
    description := nonEmpty doc.description }

/-- The parameter of a setter. -/
def valueParam (doc : MemberDoc) : Property :=
  { name := "value", typeName := nonEmpty doc.typeName }

/-- The getters and setters under both spellings of a script. -/
def accessors (doc : MemberDoc) : List Method :=
  [doc.method ("get_" ++ doc.name) [] doc.typeName,
   doc.method ("get_$" ++ doc.name) [] doc.typeName,
   doc.method ("set_" ++ doc.name) [doc.valueParam] "void",
   doc.method ("set_$" ++ doc.name) [doc.valueParam] "void"]

end MemberDoc

/-- What a member adds to its class. -/
structure Contribution where
  links : List String := []
  properties : List Property := []
  methods : List Method := []
  deriving DecidableEq, Repr

/-- The class with what a member adds. -/
def Contribution.addTo (added : Contribution) (c : ClassDef) : ClassDef :=
  { c with
    links := c.links ++ added.links
    properties := c.properties ++ added.properties
    methods := c.methods ++ added.methods }

/-- The stripped name of a member. -/
def memberName? (member : Node) : Option String :=
  (member.child? "name").map fun node => withoutTypeParams (textOf (some node))

/-- The normalized type of a member; a member without type that is named like its class has the
class as its type. -/
def memberType (className name : String) (member : Node) : String :=
  let type := TypeText.normalize (textOf (member.child? "type"))
  if type.isEmpty && name == className then className else type

/-- What all definitions of a member share. -/
def memberDoc (className name : String) (member : Node) : MemberDoc :=
  { name := name
    typeName := memberType className name member
    description := textOf (member.child? "briefdescription")
    protection := Protection.ofAttribute ((member.attribute? "prot").getD "")
    isStatic := member.attribute? "static" == some "yes" }

/-- The beginning of the type of a parameter that takes the rest of the arguments. -/
def restMark : String := "params "

/-- A parameter of a function. -/
def paramOf (className member : String) (param : Node) : Except DocumentError Property :=
  match param.child? "declname" with
  | none => .error (.unnamedParameter className member)
  | some name =>
    let type := textOf (param.child? "type")
    .ok
      { name := textOf (some name)
        typeName := nonEmpty (TypeText.normalize type)
        isRest := some (restMark.toList.isPrefixOf type.toList) }

/-- The kinds of members that the documentation tells apart. -/
inductive MemberKind
  | stored
  | function
  /-- Any other kind, as the documentation writes it. -/
  | other (kind : Option String)
  deriving DecidableEq, Repr

/-- The kind of a member. -/
def MemberKind.of (member : Node) : MemberKind :=
  match member.attribute? "kind" with
  | some "property" | some "variable" | some "event" => .stored
  | some "function" => .function
  | kind => .other kind

/-- What a member adds to the class with this name. -/
def contribution (className : String) (member : Node) : Except DocumentError Contribution :=
  match memberName? member with
  | none => .error (.unnamedMember className)
  | some name =>
    let links := references (member.child? "type")
    let doc := memberDoc className name member
    match MemberKind.of member with
    | .stored => .ok { links := links, properties := [doc.property], methods := doc.accessors }
    | .function => do
      let nodes := member.childrenTagged "param"
      let params ← nodes.mapM (paramOf className name)
      let methodName := if name == className then "" else name
      return {
        links := links ++ nodes.flatMap fun node => references (node.child? "type")
        methods := [doc.method methodName params doc.typeName] }
    | .other _ => .ok { links := links }

end ClassRecovery.Documentation
