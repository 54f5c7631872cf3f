/-!
# Cutting and replacing text

Functions on lists of characters that find fixed pieces of text. `splitLast?` cuts at the last
occurrence of a separator, `splitOn` at every one from the left, `between?` takes away a fixed
front and a fixed back, and `substitute` replaces from left to right whatever a matcher
recognizes. A recursion that has to pass over a piece it has dealt with counts the characters
still to pass, so it stays structural.
-/

set_option autoImplicit false

namespace ClassRecovery.Text

/-- The text contains no line feed. -/
def onOneLine (s : List Char) : Bool := !s.contains '\n'

/-- What stands between `front` and `back`, if the text begins with the one and what follows
ends with the other. -/
def between? (front back s : List Char) : Option (List Char) :=
  (front.isPrefixOf? s).bind fun rest => back.isSuffixOf? rest

/-- The parts before and after the last place where a separator is recognized. `after?` answers
what follows the separator at the head of a text. -/
def splitLastBy? (after? : List Char → Option (List Char)) :
    List Char → Option (List Char × List Char)
  | [] => none
  | c :: rest =>
    match splitLastBy? after? rest with
    | some (left, right) => some (c :: left, right)
    | none => (after? (c :: rest)).map fun right => ([], right)

/-- The parts before and after the last occurrence of `sep`. -/
def splitLast? (sep s : List Char) : Option (List Char × List Char) :=
  splitLastBy? (fun rest => sep.isPrefixOf? rest) s

/-- The pieces between the occurrences of `sep`, after passing over `skip` characters. -/
def splitOnFrom (sep : List Char) : Nat → List Char → List (List Char)
  | _, [] => [[]]
  | skip + 1, _ :: rest => splitOnFrom sep skip rest
  | 0, c :: rest =>
    if sep.isPrefixOf (c :: rest) then [] :: splitOnFrom sep (sep.length - 1) rest
    else
      match splitOnFrom sep 0 rest with
      | [] => [[c]]
      | piece :: pieces => (c :: piece) :: pieces

/-- The pieces between the occurrences of a nonempty separator, found from the left. -/
def splitOn (sep s : List Char) : List (List Char) := splitOnFrom sep 0 s

/-- Rewriting from left to right, after passing over `skip` characters of a match. A matcher
sees the character before the place and the text from there on, and answers how many characters
it takes (at least one) and what stands for them. -/
def substituteFrom (rule : Option Char → List Char → Option (Nat × List Char)) :
    Nat → Option Char → List Char → List Char
  | _, _, [] => []
  | skip + 1, _, c :: rest => substituteFrom rule skip (some c) rest
  | 0, before, c :: rest =>
    match rule before (c :: rest) with
    | some (taken, image) => image ++ substituteFrom rule (taken - 1) (some c) rest
    | none => c :: substituteFrom rule 0 (some c) rest

/-- The text with every leftmost match of `rule` replaced; matches do not overlap. -/
def substitute (rule : Option Char → List Char → Option (Nat × List Char)) (s : List Char) :
    List Char :=
  substituteFrom rule 0 none s

/-- The matcher of one fixed, nonempty piece of text. -/
def fixedRule (old new : List Char) (_before : Option Char) (s : List Char) :
    Option (Nat × List Char) :=
  if old.isPrefixOf s then some (old.length, new) else none

/-- The text with every occurrence of `old`, found from the left, replaced by `new`. -/
def replaceAll (old new s : List Char) : List Char := substitute (fixedRule old new) s

/-- A piece occurs somewhere in the text. -/
def occursIn (piece : List Char) : List Char → Bool
  | [] => piece.isEmpty
  | c :: rest => piece.isPrefixOf (c :: rest) || occursIn piece rest

end ClassRecovery.Text
