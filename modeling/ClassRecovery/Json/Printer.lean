import ClassRecovery.Json.Value

/-!
# Printing JSON

Two forms: compact, without any space, and pretty, with every item and field on a line of its own
at two blanks per level. Empty arrays and objects stay on one line. In strings the quote, the
backslash and the controls are escaped, and every other character stands for itself.
-/

set_option autoImplicit false

namespace ClassRecovery.Json

/-! ## Strings -/

/-- A hexadecimal digit in lower case. -/
def hexDigit (n : Nat) : Char := Nat.digitChar n

/-- A character inside a string. -/
def escape (c : Char) : List Char :=
  if c = '\x22' then ['\\', '\x22']
  else if c = '\\' then ['\\', '\\']
  else if c = '\x08' then ['\\', 'b']
  else if c = '\x0C' then ['\\', 'f']
  else if c = '\n' then ['\\', 'n']
  else if c = '\r' then ['\\', 'r']
  else if c = '\t' then ['\\', 't']
  else if c.toNat < 0x20 then
    ['\\', 'u', '0', '0', hexDigit (c.toNat / 16), hexDigit (c.toNat % 16)]
  else [c]

/-- A string between its quotes. -/
def quote (text : String) : List Char := '\x22' :: text.toList.flatMap escape ++ ['\x22']

/-- The least text of a string in which half a surrogate pair stands alone. -/
def unpairedText : List Char := "\"\\ud800\"".toList

/-! ## The compact form -/

mutual

/-- A value without any space. -/
def compact : Json → List Char
  | .null => "null".toList
  | .bool true => "true".toList
  | .bool false => "false".toList
  | .number literal => literal.toList
  | .string text => quote text
  | .array [] => ['[', ']']
  | .array (item :: items) => '[' :: compact item ++ compactItems items ++ [']']
  | .object [] => ['\x7b', '\x7d']
  | .object ((key, value) :: fields) =>
    '\x7b' :: quote key ++ ':' :: compact value ++ compactFields fields ++ ['\x7d']
  | .unpaired => unpairedText

/-- Further items, each after its comma. -/
def compactItems : List Json → List Char
  | [] => []
  | item :: items => ',' :: compact item ++ compactItems items

/-- Further fields, each after its comma. -/
def compactFields : List (String × Json) → List Char
  | [] => []
  | (key, value) :: fields => ',' :: quote key ++ ':' :: compact value ++ compactFields fields

end

/-! ## The pretty form -/

/-- A new line at a level. -/
def newLine (level : Nat) : List Char := '\n' :: List.replicate (2 * level) ' '

mutual

/-- A value with its parts on lines one level deeper. -/
def pretty (level : Nat) : Json → List Char
  | .null => "null".toList
  | .bool true => "true".toList
  | .bool false => "false".toList
  | .number literal => literal.toList
  | .string text => quote text
  | .array [] => ['[', ']']
  | .array (item :: items) =>
    '[' :: newLine (level + 1) ++ pretty (level + 1) item ++ prettyItems (level + 1) items
      ++ newLine level ++ [']']
  | .object [] => ['\x7b', '\x7d']
  | .object ((key, value) :: fields) =>
    '\x7b' :: newLine (level + 1) ++ quote key ++ ':' :: ' ' :: pretty (level + 1) value
      ++ prettyFields (level + 1) fields ++ newLine level ++ ['\x7d']
  | .unpaired => unpairedText

/-- Further items, each after its comma on a line of its own. -/
def prettyItems (level : Nat) : List Json → List Char
  | [] => []
  | item :: items => ',' :: newLine level ++ pretty level item ++ prettyItems level items

/-- Further fields, each after its comma on a line of its own. -/
def prettyFields (level : Nat) : List (String × Json) → List Char
  | [] => []
  | (key, value) :: fields =>
    ',' :: newLine level ++ quote key ++ ':' :: ' ' :: pretty level value
      ++ prettyFields level fields

end

/-- The text of a value in one of the two forms. -/
def print (isPretty : Bool) (value : Json) : String :=
  String.ofList (if isPretty then pretty 0 value else compact value)

end ClassRecovery.Json
