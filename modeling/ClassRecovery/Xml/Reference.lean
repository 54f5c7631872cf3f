import ClassRecovery.Xml.Chars

/-!
# References and line ends

What the raw text of an element or an attribute stands for. References to characters and the
five predefined entities are replaced; no other entity is known. In texts every line end becomes
a line feed, in attribute values every white space becomes a space, but characters that come
from references stay as they are.
-/

set_option autoImplicit false

namespace ClassRecovery.Xml

/-! ## References -/

/-- The value of a hexadecimal digit. -/
def hexValue (c : Char) : Nat :=
  if c.isDigit then c.toNat - '0'.toNat
  else if 'a' ≤ c && c ≤ 'f' then c.toNat - 'a'.toNat + 10
  else c.toNat - 'A'.toNat + 10

/-- A hexadecimal digit. -/
def isHexDigit (c : Char) : Bool :=
  c.isDigit || ('a' ≤ c && c ≤ 'f') || ('A' ≤ c && c ≤ 'F')

/-- The character with a number given by its digits. The number must fit 32 bits; one that
belongs to no character stands for the replacement character. -/
def numbered? (base : Nat) (digits : List Char) : Option Char :=
  let code := digits.foldl (fun value digit => base * value + hexValue digit) 0
  let c := if code.isValidChar then Char.ofNat code else '\uFFFD'
  if !digits.isEmpty && code < UInt32.size && isChar c then some c else none

/-- The character of a predefined entity. -/
def entity? (name : List Char) : Option Char :=
  match String.ofList name with
  | "quot" => some '\x22'
  | "amp" => some '&'
  | "apos" => some '\x27'
  | "lt" => some '<'
  | "gt" => some '>'
  | _ => none

/-- The character of a reference whose ampersand has been read, and what follows it. -/
def reference? (s : List Char) : Option (Char × List Char) :=
  let (character, rest) :=
    match s with
    | '#' :: 'x' :: rest => (numbered? 16 (rest.takeWhile isHexDigit), rest.dropWhile isHexDigit)
    | '#' :: rest => (numbered? 10 (rest.takeWhile (·.isDigit)), rest.dropWhile (·.isDigit))
    | _ => (entity? (s.takeWhile isNameChar), s.dropWhile isNameChar)
  match character, rest with
  | some c, ';' :: rest => some (c, rest)
  | _, _ => none

/-! ## Texts -/

/-- The text read so far, in reverse, with one more character. A carriage return becomes a line
feed when the next character comes, or at once at the end of the text; a line feed right after
it is dropped. -/
def pushText (read : List Char) (c : Char) (atEnd : Bool) : List Char :=
  let last := if atEnd && c == '\r' then '\n' else c
  match read with
  | '\r' :: before => if c == '\n' then '\n' :: before else last :: '\n' :: before
  | _ => last :: read

/-- What the rest of a raw text stands for, after `read` in reverse; `raw` says that the last
character came from a reference, and then the next one is taken as it is. -/
def decodeTextFrom : Nat → Bool → List Char → List Char → Option (List Char)
  | _, _, read, [] => some read.reverse
  | 0, _, _, _ => none
  | fuel + 1, _, read, '&' :: rest =>
    match reference? rest with
    | some (c, rest) => decodeTextFrom fuel true (c :: read) rest
    | none => none
  | fuel + 1, raw, read, c :: rest =>
    decodeTextFrom fuel false (if raw then c :: read else pushText read c rest.isEmpty) rest

/-- What a raw text stands for. -/
def decodeText (s : List Char) : Option (List Char) := decodeTextFrom s.length false [] s

/-- What the rest of a literal section stands for, after `read` in reverse. -/
def decodeSectionFrom (read : List Char) : List Char → List Char
  | [] => read.reverse
  | c :: rest => decodeSectionFrom (pushText read c rest.isEmpty) rest

/-- What a literal section stands for: only its line ends change. -/
def decodeSection (s : List Char) : List Char := decodeSectionFrom [] s

/-! ## Attribute values -/

/-- What the rest of a raw attribute value stands for, after `read` in reverse. -/
def decodeValueFrom : Nat → List Char → List Char → Option (List Char)
  | _, read, [] => some read.reverse
  | 0, _, _ => none
  | fuel + 1, read, '&' :: rest =>
    match reference? rest with
    | some (c, rest) => decodeValueFrom fuel (c :: read) rest
    | none => none
  | fuel + 1, read, c :: rest =>
    if c == '\r' && rest.head? == some '\n' then decodeValueFrom fuel read rest
    else decodeValueFrom fuel ((if isSpace c then ' ' else c) :: read) rest

/-- What a raw attribute value stands for. -/
def decodeValue (s : List Char) : Option (List Char) := decodeValueFrom s.length [] s

end ClassRecovery.Xml
