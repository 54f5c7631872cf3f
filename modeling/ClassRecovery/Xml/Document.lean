import ClassRecovery.Xml.Token
import ClassRecovery.Xml.Tree

/-!
# XML documents

A document is one element, with comments, processing instructions and white space around it, and
perhaps a declaration at its very beginning. Tags must nest, every prefix must be declared, and
no element may have two attributes of one name, also where two prefixes stand for one namespace.
The prefix `xml` stands before attributes without a declaration, and before elements never.
Document types are not admitted.
-/

set_option autoImplicit false

namespace ClassRecovery.Xml

/-! ## Namespaces -/

/-- The namespace of the prefix `xml`. -/
def xmlNamespace : String := "http://www.w3.org/XML/1998/namespace"

/-- The namespace of declarations of namespaces, which nothing may be bound to. -/
def xmlnsNamespace : String := "http://www.w3.org/2000/xmlns/"

/-- Declared prefixes with their namespaces, the nearest declaration first. -/
abbrev Namespaces := List (String × String)

/-- The attribute declares a prefix. -/
def declaresPrefix (item : QName × String) : Bool := item.1.qualifier == "xmlns"

/-- The attribute declares the namespace of unprefixed elements. -/
def declaresDefault (item : QName × String) : Bool :=
  !declaresPrefix item && item.1.name == "xmlns"

/-- The declarations of a tag with one more. The prefix `xml` and its namespace belong together,
and a prefix is declared once. -/
def declare? (declared : Namespaces) (item : QName × String) : Option Namespaces :=
  let (name, uri) := item
  if declaresPrefix item then
    if uri == xmlnsNamespace then none
    else if name.name == "xml" || uri == xmlNamespace then
      if name.name == "xml" && uri == xmlNamespace then some declared else none
    else if (declared.lookup name.name).isSome then none
    else some (declared ++ [(name.name, uri)])
  else if declaresDefault item && (uri == xmlNamespace || uri == xmlnsNamespace) then none
  else some declared

/-- The namespace of the prefix of an attribute. -/
def namespaceOf? (scope : Namespaces) (qualifier : String) : Option String :=
  if qualifier == "xml" then some xmlNamespace else scope.lookup qualifier

/-- The expanded name of an attribute; one without prefix is in no namespace. -/
def expandedName? (scope : Namespaces) (name : QName) : Option (Option String × String) :=
  if name.qualifier.isEmpty then some (none, name.name)
  else (namespaceOf? scope name.qualifier).map fun uri => (some uri, name.name)

/-- The prefix may stand before an element: it is empty or a declaration in scope names it. -/
def admitsElement (scope : Namespaces) (qualifier : String) : Bool :=
  qualifier.isEmpty || qualifier != "xmlns" && (scope.lookup qualifier).isSome

/-! ## Nesting -/

/-- An element whose end tag has not been read; its children are in reverse. -/
structure OpenElement where
  name : QName
  attributes : List (String × String)
  scope : Namespaces
  children : List Node

/-- What has been read of a document: the open elements, the innermost first, and the root once
it is closed. -/
structure Draft where
  stack : List OpenElement := []
  root : Option Node := none

namespace Draft

/-- The document with one more node. Outside the open elements only the root may stand. -/
def addNode? (doc : Draft) (node : Node) : Option Draft :=
  match doc.stack with
  | element :: outer =>
    let grown := { element with children := node :: element.children }
    some { doc with stack := grown :: outer }
  | [] => if doc.root.isSome then none else some { doc with root := some node }

/-- The element that a start tag opens, in the scope around it. -/
def openElement? (scope : Namespaces) (name : QName) (attributes : List (QName × String)) :
    Option OpenElement := do
  let declared ← attributes.foldlM declare? []
  let scope := declared ++ scope
  let own := attributes.filter fun a => !declaresPrefix a && !declaresDefault a
  let expanded ← own.mapM fun a => expandedName? scope a.1
  if expanded.eraseDups.length != expanded.length || !admitsElement scope name.qualifier then none
  else
    let plain := (own.filter fun a => a.1.qualifier.isEmpty).map fun a => (a.1.name, a.2)
    some ⟨name, plain, scope, []⟩

/-- The document after one more token. -/
def push? (doc : Draft) : Token → Option Draft
  | .passed => some doc
  | .text content isSpace =>
    if doc.stack.isEmpty then (if isSpace then some doc else none)
    else doc.addNode? (.text content)
  | .start name attributes isEmpty => do
    let scope := (doc.stack.head?.map OpenElement.scope).getD []
    let element ← openElement? scope name attributes
    if isEmpty then doc.addNode? (.element name.name element.attributes [])
    else if doc.stack.isEmpty && doc.root.isSome then none
    else some { doc with stack := element :: doc.stack }
  | .finish name =>
    match doc.stack with
    | element :: outer =>
      if element.name = name then
        { doc with stack := outer }.addNode?
          (.element name.name element.attributes element.children.reverse)
      else none
    | [] => none

end Draft

/-- The tree of a sequence of tokens. -/
def Node.ofTokens? (tokens : List Token) : Option Node := do
  let doc ← tokens.foldlM Draft.push? {}
  if doc.stack.isEmpty then doc.root else none

/-! ## Documents -/

/-- The text after white space, which may only be missing before the end of a declaration. -/
def afterSpace? (s : List Char) : Option (List Char) :=
  if s.head?.any isSpace then some (skipSpace s)
  else if "?>".toList.isPrefixOf s || s.isEmpty then some s
  else none

/-- What follows an attribute of a declaration that may be missing. -/
def afterOptional? (name : String) (s : List Char) : Option (List Char) :=
  if name.toList.isPrefixOf s then (attribute? s).map fun (_, _, rest) => rest else some s

/-- What follows the declaration of a document whose `<?xml` has been read: the version, then
perhaps the encoding, then perhaps whether the document stands alone. -/
def afterDeclaration? (s : List Char) : Option (List Char) := do
  let start ← afterSpace? s
  if !"version".toList.isPrefixOf start then none
  else
    let (_, _, rest) ← attribute? start
    let rest ← afterSpace? rest
    let afterEncoding ← afterOptional? "encoding" rest
    let rest ←
      if "encoding".toList.isPrefixOf rest then afterSpace? afterEncoding else some afterEncoding
    let rest ← afterOptional? "standalone" rest
    "?>".toList.isPrefixOf? (skipSpace rest)

/-- The content of a document without the byte order mark and the declaration at its
beginning. -/
def body? (s : List Char) : Option (List Char) :=
  let s := (['\uFEFF'].isPrefixOf? s).getD s
  if "<?xml ".toList.isPrefixOf s then afterDeclaration? (s.drop 5) else some s

/-- The root of a document; `none` if the text is not a well-formed document. -/
def parse? (text : String) : Option Node :=
  let s := text.toList
  if s.all isChar then (body? s).bind fun body => (tokens? body).bind Node.ofTokens? else none

end ClassRecovery.Xml
