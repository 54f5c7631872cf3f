import ClassRecovery.Toml.Scalar

/-!
# TOML documents

Keys, values, tables and whole documents. No key is defined twice: a header may complete a table
that only stood on the way to another one, and a dotted key may add to a table made by dotted
keys, but nothing else adds to a table that is there. Arrays and inline tables may be nested
less than eighty deep, and a key has less than eighty parts.
-/

set_option autoImplicit false

namespace ClassRecovery.Toml

/-! ## Keys and space -/

/-- A character of a bare key. -/
def isBareChar (c : Char) : Bool := c.isAlphanum || c == '_' || c == '-'

/-- One part of a key. -/
def keyPart? : List Char → Option (String × List Char)
  | '\x22' :: rest => basic? rest
  | '\x27' :: rest => literal? rest
  | s =>
    let name := s.takeWhile isBareChar
    if name.isEmpty then none else some (String.ofList name, s.dropWhile isBareChar)

/-- The depth at which keys and nested values become too deep. -/
def depthLimit : Nat := 80

/-- The parts of a key after those read so far, in reverse; blanks may stand around each. -/
def keyFrom? : Nat → List String → List Char → Option (List String × List Char)
  | 0, _, _ => none
  | fuel + 1, read, s => do
    let (part, rest) ← keyPart? (skipBlanks s)
    match skipBlanks rest with
    | '.' :: rest => keyFrom? fuel (part :: read) rest
    | rest => some ((part :: read).reverse, rest)

/-- The parts of a key. -/
def key? (s : List Char) : Option (List String × List Char) := keyFrom? (depthLimit - 1) [] s

/-- The text without a comment at its head. -/
def skipComment (s : List Char) : List Char :=
  match s with
  | '#' :: rest => rest.dropWhile isPlain
  | s => s

/-- The next line, if only blanks and a comment are left on this one; the end of the document
counts as a line end. -/
def endLine? (s : List Char) : Option (List Char) :=
  match skipComment (skipBlanks s) with
  | [] => some []
  | rest => newline? rest

/-- The text without blanks, comments and line ends at its head. -/
def skipSpace : Nat → List Char → List Char
  | 0, s => s
  | fuel + 1, s =>
    let rest := skipComment (skipBlanks s)
    match newline? rest with
    | some rest => skipSpace fuel rest
    | none => rest

/-! ## Tables -/

/-- Changes the entries of the table at the end of a path of keys, making implicit tables on the
way. A dotted path adds to no table but those of dotted keys; a path of a header goes into the
last table of an array. -/
def descend (isDotted : Bool) (change : Origin → Entries → Option Entries) :
    List String → Origin → Entries → Option Entries
  | [], origin, entries => change origin entries
  | key :: path, _, entries =>
    match entries.get? key with
    | none => do
      let origin : Origin := { isImplicit := true, isDotted := isDotted }
      return entries.put key (.table origin (← descend isDotted change path origin []))
    | some (.table origin inner) =>
      if isDotted && !origin.isImplicit then none
      else do return entries.put key (.table origin (← descend isDotted change path origin inner))
    | some (.tables (last :: others)) => do
      let inner ← descend isDotted change path {} last
      return entries.put key (.tables (inner :: others))
    | some _ => none

/-- Adds a key that is not there yet. -/
def addKey (key : String) (value : Value) (entries : Entries) : Option Entries :=
  if (entries.get? key).isSome then none else some (entries.put key value)

/-- Adds a dotted key to a table. -/
def addDotted (origin : Origin) (key : List String) (value : Value) (entries : Entries) :
    Option Entries :=
  match key.getLast? with
  | none => none
  | some last =>
    let path := key.dropLast
    descend true
      (fun origin entries =>
        if origin.isDotted == path.isEmpty then none else addKey last value entries)
      path origin entries

/-- Adds a dotted key to an inline table, after passing its path. -/
def addInline : List String → Value → Entries → Option Entries
  | [], _, _ => none
  | [key], value, entries => addKey key value entries
  | key :: path, value, entries =>
    match entries.get? key with
    | none => do
      let origin : Origin := { isImplicit := true, isDotted := true }
      return entries.put key (.inlineTable origin (← addInline path value []))
    | some (.inlineTable origin inner) =>
      if origin.isImplicit then do
        return entries.put key (.inlineTable origin (← addInline path value inner))
      else none
    | some _ => none

/-! ## Values -/

mutual

/-- A value; the fuel bounds the nesting and the length together, `depth` the nesting. -/
def value? : Nat → Nat → List Char → Option (Value × List Char)
  | 0, _, _ => none
  | fuel + 1, depth, s =>
    match s with
    | '\x22' :: _ => (string? s).map fun (text, rest) => (.string text, rest)
    | '\x27' :: _ => (string? s).map fun (text, rest) => (.string text, rest)
    | '[' :: rest =>
      if depthLimit ≤ depth + 1 then none else items? fuel (depth + 1) [] rest
    | '\x7b' :: rest =>
      if depthLimit ≤ depth + 1 then none
      else
        match skipBlanks rest with
        | '\x7d' :: rest => some (.inlineTable {} [], rest)
        | rest => pairs? fuel (depth + 1) [] rest
    | 't' :: 'r' :: 'u' :: 'e' :: rest => some (.boolean true, rest)
    | 'f' :: 'a' :: 'l' :: 's' :: 'e' :: rest => some (.boolean false, rest)
    | _ => (time? s).or ((float? s).or (integer? s))

/-- The rest of an array, after the items read so far, in reverse. -/
def items? : Nat → Nat → List Value → List Char → Option (Value × List Char)
  | 0, _, _, _ => none
  | fuel + 1, depth, read, s =>
    match skipSpace s.length s with
    | ']' :: rest => some (.array read.reverse, rest)
    | s =>
      match value? fuel depth s with
      | none => none
      | some (item, rest) =>
        match skipSpace rest.length rest with
        | ',' :: rest => items? fuel depth (item :: read) rest
        | ']' :: rest => some (.array (item :: read).reverse, rest)
        | _ => none

/-- The rest of an inline table, after the entries read so far. -/
def pairs? : Nat → Nat → Entries → List Char → Option (Value × List Char)
  | 0, _, _, _ => none
  | fuel + 1, depth, read, s =>
    match key? s with
    | some (key, '=' :: rest) =>
      match value? fuel depth (skipBlanks rest) with
      | none => none
      | some (value, rest) =>
        match addInline key value read with
        | none => none
        | some entries =>
          match skipBlanks rest with
          | ',' :: rest => pairs? fuel depth entries rest
          | '\x7d' :: rest => some (.inlineTable {} entries, rest)
          | _ => none
    | _ => none

end

/-! ## Documents -/

/-- What has been read of a document: the table of the last header with its path, apart from the
tables before it. -/
structure Reading where
  root : Entries := []
  path : List String := []
  isArray : Bool := false
  origin : Origin := {}
  current : Entries := []

namespace Reading

/-- Puts the table of the last header where it belongs. -/
def close? (doc : Reading) : Option Reading :=
  match doc.path.getLast? with
  | none => some { root := doc.current }
  | some key => do
    let place (_ : Origin) (entries : Entries) : Option Entries :=
      if doc.isArray then
        match entries.get? key with
        | none => some (entries.put key (.tables [doc.current]))
        | some (.tables others) => some (entries.put key (.tables (doc.current :: others)))
        | some _ => none
      else addKey key (.table {} doc.current) entries
    return { root := ← descend false place doc.path.dropLast {} doc.root }

/-- Begins the table of a header. A table that only stood on the way to another one is taken up
again. -/
def openTable? (doc : Reading) (path : List String) : Option Reading := do
  let closed ← doc.close?
  let key ← path.getLast?
  let found ← lookup? path.dropLast closed.root key
  match found with
  | none => some { closed with path := path }
  | some (.table origin inner) =>
    if origin.isImplicit && !origin.isDotted then
      let remove (_ : Origin) (entries : Entries) : Option Entries := some (entries.erase key)
      let root ← descend false remove path.dropLast {} closed.root
      some { root := root, path := path, current := inner }
    else none
  | some _ => none
where
  /-- The value at the end of a path of a header. -/
  lookup? : List String → Entries → String → Option (Option Value)
    | [], entries, key => some (entries.get? key)
    | part :: path, entries, key =>
      match entries.get? part with
      | none => some none
      | some (.table _ inner) => lookup? path inner key
      | some (.tables (last :: _)) => lookup? path last key
      | some _ => none

/-- Begins the next table of an array. -/
def openArray? (doc : Reading) (path : List String) : Option Reading := do
  let closed ← doc.close?
  let key ← path.getLast?
  match ← openTable?.lookup? path.dropLast closed.root key with
  | none => some { closed with path := path, isArray := true }
  | some (.tables _) => some { closed with path := path, isArray := true }
  | some _ => none

/-- Adds a key and its value to the table of the last header. -/
def addPair? (doc : Reading) (key : List String) (value : Value) : Option Reading := do
  return { doc with current := ← addDotted {} key value doc.current }

/-- Reads a header whose bracket has been read. -/
def header? (doc : Reading) (s : List Char) : Option (Reading × List Char) :=
  match s with
  | '[' :: rest =>
    match key? rest with
    | some (path, ']' :: ']' :: rest) => do
      let rest ← endLine? rest
      return (← doc.openArray? path, rest)
    | _ => none
  | _ =>
    match key? s with
    | some (path, ']' :: rest) => do
      let rest ← endLine? rest
      return (← doc.openTable? path, rest)
    | _ => none

/-- Reads a key with its value. -/
def pair? (doc : Reading) (s : List Char) : Option (Reading × List Char) :=
  match key? s with
  | some (key, '=' :: rest) => do
    let (value, rest) ← value? (2 * rest.length + 2) 0 (skipBlanks rest)
    let rest ← endLine? rest
    return (← doc.addPair? key value, rest)
  | _ => none

/-- Reads the rest of a document. -/
def readFrom? : Nat → Reading → List Char → Option Reading
  | 0, _, _ => none
  | fuel + 1, doc, s =>
    match skipSpace s.length s with
    | [] => some doc
    | '[' :: rest =>
      match doc.header? rest with
      | some (doc, rest) => readFrom? fuel doc rest
      | none => none
    | rest =>
      match doc.pair? rest with
      | some (doc, rest) => readFrom? fuel doc rest
      | none => none

end Reading

/-- The table of a document; `none` if the text is not TOML. -/
def parse? (text : String) : Option Entries := do
  let s := text.toList
  let s := (['\uFEFF'].isPrefixOf? s).getD s
  let doc ← Reading.readFrom? (s.length + 1) {} s
  return (← doc.close?).root

end ClassRecovery.Toml
