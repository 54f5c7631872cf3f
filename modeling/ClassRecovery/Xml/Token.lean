import ClassRecovery.Xml.Reference

/-!
# Tokens of an XML document

A document is a sequence of tags, texts and things that are passed over. Scanning a token checks
all that can be seen from the token alone: its names, its quotes, its references.
-/

set_option autoImplicit false

namespace ClassRecovery.Xml

/-- A name with its prefix, which is empty if there is none. -/
structure QName where
  qualifier : String
  name : String
  deriving DecidableEq, Repr, Inhabited

/-- A token of a document. -/
inductive Token
  /-- A start tag with its attributes; an empty element is closed at once. -/
  | start (name : QName) (attributes : List (QName × String)) (isEmpty : Bool)
  | finish (name : QName)
  /-- A text; `isSpace` says that it is nothing but white space. -/
  | text (content : String) (isSpace : Bool)
  /-- A comment or a processing instruction. -/
  | passed
  deriving Repr

/-! ## Parts of tags -/

/-- The text before the first occurrence of `mark` and what follows it, after `read` in
reverse. -/
def cutFirstFrom? (mark : List Char) (read : List Char) :
    List Char → Option (List Char × List Char)
  | [] => none
  | c :: rest =>
    match mark.isPrefixOf? (c :: rest) with
    | some after => some (read.reverse, after)
    | none => cutFirstFrom? mark (c :: read) rest

/-- The text before the first occurrence of `mark` and what follows it. -/
def cutFirst? (mark s : List Char) : Option (List Char × List Char) := cutFirstFrom? mark [] s

/-- A piece occurs in a text. -/
def occurs (piece s : List Char) : Bool := (cutFirst? piece s).isSome

/-- The text without white space at its head. -/
def skipSpace (s : List Char) : List Char := s.dropWhile isSpace

/-- The name at the head of a text and what follows it. At most one colon may stand in it, and
what stands on either side of the colon is a name; only the prefix may be empty. -/
def qname? (s : List Char) : Option (QName × List Char) :=
  let run := s.takeWhile fun c => isNameChar c || c == ':'
  let rest := s.dropWhile fun c => isNameChar c || c == ':'
  let head := run.takeWhile (· != ':')
  let (qualifier, name) :=
    match run.dropWhile (· != ':') with
    | _ :: tail => (head, tail)
    | [] => ([], head)
  if name.contains ':' || (qualifier.head?.any fun c => !isNameStart c)
      || !name.head?.any isNameStart then none
  else some (⟨String.ofList qualifier, String.ofList name⟩, rest)

/-- The attribute at the head of a text, with its raw value, and what follows it. -/
def attribute? (s : List Char) : Option (QName × List Char × List Char) := do
  let (name, rest) ← qname? s
  let quoted ← ['='].isPrefixOf? (skipSpace rest)
  match skipSpace quoted with
  | [] => none
  | quote :: rest =>
    if quote == '\x22' || quote == '\x27' then
      let value := rest.takeWhile fun c => c != quote && c != '<'
      let after ← [quote].isPrefixOf? (rest.dropWhile fun c => c != quote && c != '<')
      some (name, value, after)
    else none

/-- The attributes of a start tag after those read so far, whether the tag closes its element,
and what follows the tag. An attribute has white space before it. -/
def attributesFrom? : Nat → List (QName × String) → List Char →
    Option (List (QName × String) × Bool × List Char)
  | 0, _, _ => none
  | fuel + 1, read, s =>
    match skipSpace s with
    | '/' :: '>' :: rest => some (read.reverse, true, rest)
    | '>' :: rest => some (read.reverse, false, rest)
    | body =>
      if s.head?.any isSpace then
        match attribute? body with
        | some (name, raw, rest) =>
          match decodeValue raw with
          | some value => attributesFrom? fuel ((name, String.ofList value) :: read) rest
          | none => none
        | none => none
      else none

/-! ## Tokens -/

/-- A start tag whose `<` has been read. -/
def startTag? (s : List Char) : Option (Token × List Char) := do
  let (name, rest) ← qname? s
  let (attributes, isEmpty, rest) ← attributesFrom? (rest.length + 1) [] rest
  some (.start name attributes isEmpty, rest)

/-- An end tag whose `</` has been read. -/
def endTag? (s : List Char) : Option (Token × List Char) := do
  let (name, rest) ← qname? s
  some (.finish name, ← ['>'].isPrefixOf? (skipSpace rest))

/-- A comment whose `<!--` has been read; two hyphens end it. -/
def comment? (s : List Char) : Option (Token × List Char) := do
  let (content, rest) ← cutFirst? "-->".toList s
  if occurs "--".toList content || content.getLast? == some '-' then none
  else some (.passed, rest)

/-- A literal section whose opening has been read. -/
def section? (s : List Char) : Option (Token × List Char) := do
  let (content, rest) ← cutFirst? "]]>".toList s
  some (.text (String.ofList (decodeSection content)) false, rest)

/-- A processing instruction whose `<?` has been read. It must not look like a declaration. -/
def instruction? (s : List Char) : Option (Token × List Char) := do
  if "xml ".toList.isPrefixOf s || !s.head?.any isNameStart then none
  else
    let (_, rest) ← cutFirst? "?>".toList (skipSpace (s.dropWhile isNameChar))
    some (.passed, rest)

/-- A text up to the next tag. -/
def text? (s : List Char) : Option (Token × List Char) := do
  let raw := s.takeWhile (· != '<')
  if occurs "]]>".toList raw then none
  else
    let content ← decodeText raw
    some (.text (String.ofList content) (raw.all isSpace), s.dropWhile (· != '<'))

/-- The token at the head of a text and what follows it. -/
def token? (s : List Char) : Option (Token × List Char) :=
  match s with
  | '<' :: '!' :: '-' :: '-' :: rest => comment? rest
  | '<' :: '!' :: rest =>
    match "[CDATA[".toList.isPrefixOf? rest with
    | some content => section? content
    | none => none
  | '<' :: '?' :: rest => instruction? rest
  | '<' :: '/' :: rest => endTag? rest
  | '<' :: rest => startTag? rest
  | _ => text? s

/-- The tokens of a text after those read so far, in reverse. -/
def tokensFrom? : Nat → List Token → List Char → Option (List Token)
  | _, read, [] => some read.reverse
  | 0, _, _ => none
  | fuel + 1, read, s =>
    match token? s with
    | some (token, rest) => tokensFrom? fuel (token :: read) rest
    | none => none

/-- The tokens of a text. -/
def tokens? (s : List Char) : Option (List Token) := tokensFrom? s.length [] s

end ClassRecovery.Xml
