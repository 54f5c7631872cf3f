import ClassRecovery.Text.Blank
import ClassRecovery.Text.Cut
import ClassRecovery.Text.Word
import ClassRecovery.TypeText

/-!
# Explicit generic calls

The generated script calls a generic function in two steps, `f(T).call(null, a)`: the first
call binds the type, the second one passes the arguments. `explicit` turns both forms, with and
without a `null` receiver, into `f<T>(a)` and normalizes the type.
-/

set_option autoImplicit false

namespace ClassRecovery.GenericCall

open Text

/-- The head of a generic call: the function, its type, and what follows `.call(`. -/
structure Head where
  name : List Char
  type : List Char
  rest : List Char

/-- The head of a generic call that begins right here, at a word boundary. -/
def headAt? (before : Option Char) (s : List Char) : Option Head :=
  if isBoundary before s.head? then
    let name := s.takeWhile isIdent
    if name.isEmpty then none
    else
      match s.dropWhile isIdent with
      | '(' :: inner =>
        let type := inner.takeWhile fun c => c != '(' && c != ')'
        if type.isEmpty then none
        else
          (").call(".toList.isPrefixOf? (inner.dropWhile fun c => c != '(' && c != ')')).map
            fun rest => ⟨name, type, rest⟩
      | _ => none
  else none

/-- What stands for the head once the type is explicit. -/
def Head.image (head : Head) : List Char :=
  head.name ++ '<' :: TypeText.normalizeChars head.type ++ ['>', '(']

/-- The matcher of a call whose receiver is `null`; the white space after the receiver, at least
one character of it, goes with the receiver. -/
def nullReceiverRule (before : Option Char) (s : List Char) : Option (Nat × List Char) := do
  let head ← headAt? before s
  let arguments ← "null,".toList.isPrefixOf? head.rest
  if arguments.head?.any isBlank then
    some (s.length - (arguments.dropWhile isBlank).length, head.image)
  else none

/-- The matcher of a call with any receiver. -/
def receiverRule (before : Option Char) (s : List Char) : Option (Nat × List Char) := do
  let head ← headAt? before s
  some (s.length - head.rest.length, head.image)

/-- The characters of a line with its generic calls made explicit. -/
def explicitChars (s : List Char) : List Char :=
  substitute receiverRule (substitute nullReceiverRule s)

/-- A line with its generic calls made explicit. -/
def explicit (line : String) : String := String.ofList (explicitChars line.toList)

end ClassRecovery.GenericCall
