import ClassRecovery.Text.Blank
import ClassRecovery.Text.Cut
import ClassRecovery.Text.Word

/-!
# Type texts

A type of the documented sources is written in one vocabulary and emitted in another.
`normalize` maps the words of a type text, wherever they stand in it, and then marks the type as
possibly absent unless it is one of the forms that never are.

The words are mapped one by one: a list such as `IList` becomes `Array`, a number type becomes
`number`, and the library qualifier `ss.` is dropped in front of the few words that have one.
Dictionaries are found inside words as well, in three passes: one that opens type arguments, one
at the end of the text, and any other.
-/

set_option autoImplicit false

namespace ClassRecovery.TypeText

open Text

/-- The mark of a type that may be absent. -/
def absentSuffix : List Char := " | undefined".toList

/-! ## Words -/

/-- A maximal run of word characters, or one other character. -/
inductive Token
  | word (letters : List Char)
  | mark (c : Char)
  deriving DecidableEq, Repr

/-- The characters of a token. -/
def Token.chars : Token → List Char
  | .word letters => letters
  | .mark c => [c]

/-- A text as words and single marks. -/
def tokens : List Char → List Token
  | [] => []
  | c :: rest =>
    if isWord c then
      match tokens rest with
      | .word letters :: more => .word (c :: letters) :: more
      | more => .word [c] :: more
    else .mark c :: tokens rest

/-- Words that the script library qualifies with `ss.`. -/
def libraryWords : List String := ["IList", "List", "IEnumerable", "ICollection", "JsDate", "Int32"]

/-- Words that are emitted under another name. -/
def wordImages : List (String × String) :=
  [("bool", "boolean"),
   ("int", "number"), ("float", "number"), ("double", "number"), ("long", "number"),
   ("short", "number"), ("byte", "number"), ("uint", "number"),
   ("IList", "Array"), ("List", "Array"), ("IEnumerable", "Array"), ("ICollection", "Array"),
   ("JsDate", "Date"), ("Int32", "number"), ("DateTime", "Date"), ("Object", "any"),
   ("jQueryObject", "JQuery"), ("jQueryEvent", "JQuery.Event"),
   ("jQueryEventHandler", "JQuery.EventHandler"), ("dynamic", "any"),
   ("Delegate", "Action<void>")]

/-- The emitted form of a word. -/
def wordImage (letters : List Char) : List Char :=
  match wordImages.find? (fun entry => entry.1.toList == letters) with
  | some entry => entry.2.toList
  | none => letters

/-- The tokens without the qualifier `ss.` of library words. -/
def dropLibraryQualifiers : List Token → List Token
  | .word qualifier :: .mark '.' :: .word letters :: rest =>
    if qualifier == ['s', 's'] && libraryWords.any (·.toList == letters) then
      .word letters :: dropLibraryQualifiers rest
    else .word qualifier :: dropLibraryQualifiers (.mark '.' :: .word letters :: rest)
  | token :: rest => token :: dropLibraryQualifiers rest
  | [] => []

/-- The emitted characters of a token. -/
def Token.image : Token → List Char
  | .word letters => wordImage letters
  | .mark c => [c]

/-- The text with every word mapped. -/
def mapWords (s : List Char) : List Char :=
  (dropLibraryQualifiers (tokens s)).flatMap Token.image

/-! ## Modifiers, delegates and dictionaries -/

/-- Leading keywords, each with its space, that say nothing about the type. -/
def modifiers : List String :=
  ["sealed override ", "override ", "params ", "readonly ", "new ", "this ", "abstract ",
   "const "]

/-- The text without its leading modifiers, after passing over `skip` characters of one. -/
def dropModifiersFrom : Nat → List Char → List Char
  | _, [] => []
  | skip + 1, _ :: rest => dropModifiersFrom skip rest
  | 0, c :: rest =>
    match modifiers.find? (fun word => word.toList.isPrefixOf (c :: rest)) with
    | some word => dropModifiersFrom (word.toList.length - 1) rest
    | none => c :: rest

/-- The text without its leading modifiers. -/
def dropModifiers (s : List Char) : List Char := dropModifiersFrom 0 s

/-- A delegate that returns `T` is an action of `T`. -/
def mapDelegate (s : List Char) : List Char :=
  match "delegate ".toList.isPrefixOf? s with
  | some result =>
    if onOneLine result then "Action<".toList ++ result ++ ['>'] else s
  | none => s

/-- What follows the name of a dictionary at the head of the text. -/
def afterDictionary? (s : List Char) : Option (List Char) :=
  let unqualified := ("ss.".toList.isPrefixOf? s).getD s
  let plain := ("Js".toList.isPrefixOf? unqualified).getD unqualified
  "Dictionary".toList.isPrefixOf? plain

/-- A dictionary with neither key nor value type. -/
def plainRecord : List Char := "Record<string,any>".toList

/-- A dictionary that opens its type arguments. -/
def genericDictionaryRule (_before : Option Char) (s : List Char) : Option (Nat × List Char) :=
  match afterDictionary? s with
  | some ('<' :: rest) => some (s.length - rest.length, "Record<".toList)
  | _ => none

/-- A dictionary at the end of the text. -/
def lastDictionaryRule (_before : Option Char) (s : List Char) : Option (Nat × List Char) :=
  match afterDictionary? s with
  | some [] => some (s.length, plainRecord)
  | _ => none

/-- A dictionary before any character but `<`, which is taken along. -/
def innerDictionaryRule (_before : Option Char) (s : List Char) : Option (Nat × List Char) :=
  match afterDictionary? s with
  | some (c :: rest) =>
    if c = '<' then none else some (s.length - rest.length, plainRecord ++ [c])
  | _ => none

/-- The text with every dictionary mapped. -/
def mapDictionaries (s : List Char) : List Char :=
  substitute innerDictionaryRule
    (substitute lastDictionaryRule (substitute genericDictionaryRule s))

/-! ## Absence -/

/-- Types that are final as they stand. -/
def bareTypes : List String := ["any", "unknown", "boolean", "string", "void"]

/-- Types that are never absent unless declared optional. -/
def valueTypes : List String := ["number", "Date"]

/-- The mapped type needs no mark of absence. -/
def isComplete (optional : Bool) (type : List Char) : Bool :=
  bareTypes.any (·.toList == type)
    || "[]".toList.isSuffixOf type
    || "Array<".toList.isPrefixOf type
    || "Record<".toList.isPrefixOf type
    || "TypeOption<".toList.isPrefixOf type
    || (!optional && valueTypes.any (·.toList == type))

/-- The text without the marks `?` and `@`, trimmed. -/
def withoutMarks (s : List Char) : List Char :=
  trim (s.filter fun c => c != '?' && c != '@')

/-- The text with all its words mapped, before the question of absence. -/
def mapWhole (s : List Char) : List Char :=
  mapDictionaries (mapDelegate (mapWords (dropModifiers s)))

/-- The emitted form of the characters of a type. -/
def normalizeChars (raw : List Char) : List Char :=
  if absentSuffix.isSuffixOf raw then raw
  else
    let stripped := withoutMarks raw
    if stripped.isEmpty then []
    else
      let type := mapWhole stripped
      if isComplete (raw.contains '?') type then type else type ++ absentSuffix

/-- The emitted form of a type text; the empty text, an unknown type, stays empty. -/
def normalize (raw : String) : String := String.ofList (normalizeChars raw.toList)

end ClassRecovery.TypeText
