/-!
# XML trees

A document as its reader sees it: elements by the local part of their names, the attributes
that have no prefix, and texts. Comments and processing instructions are not part of the tree,
and a text may stand in several pieces.
-/

set_option autoImplicit false

namespace ClassRecovery.Xml

/-- An element or a text. -/
inductive Node
  | element (tag : String) (attributes : List (String × String)) (children : List Node)
  | text (content : String)
  deriving Repr, Inhabited

namespace Node

/-- The children of an element; a text has none. -/
def children : Node → List Node
  | .element _ _ nodes => nodes
  | .text _ => []

/-- The value of an attribute of an element. -/
def attribute? (name : String) : Node → Option String
  | .element _ attributes _ => attributes.lookup name
  | .text _ => none

/-- The node is an element with this tag. -/
def hasTag (tag : String) : Node → Bool
  | .element own _ _ => own == tag
  | .text _ => false

/-- The children with this tag, in document order. -/
def childrenTagged (node : Node) (tag : String) : List Node :=
  node.children.filter (·.hasTag tag)

/-- The first child with this tag. -/
def child? (node : Node) (tag : String) : Option Node := node.children.find? (·.hasTag tag)

mutual

/-- All texts below a node, one after the other. -/
def allText : Node → String
  | .element _ _ nodes => allTextOf nodes
  | .text content => content

/-- All texts below some nodes, one after the other. -/
def allTextOf : List Node → String
  | [] => ""
  | node :: nodes => node.allText ++ allTextOf nodes

end

end Node

end ClassRecovery.Xml
