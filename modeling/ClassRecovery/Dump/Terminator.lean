import ClassRecovery.Error

/-!
# Closing lines

A construct of several lines goes on to the first line that closes it.
-/

set_option autoImplicit false

namespace ClassRecovery.Dump

/-- The lines before the first closing line, and that line. -/
def cutAtClosing? (closes : String → Bool) (lines : List String) :
    Option (List String × String) :=
  match lines.dropWhile (fun line => !closes line) with
  | [] => none
  | closing :: _ => some (lines.takeWhile (fun line => !closes line), closing)

/-- The lines before the closing line of the construct opened at `index`, and that line. -/
def cutAtClosing (closes : String → Bool) (terminator : String) (index : Nat)
    (lines : List String) : Except Error (List String × String) :=
  match cutAtClosing? closes lines with
  | some cut => .ok cut
  | none => .error (.unterminatedAt index terminator)

/-- The line begins with this text. -/
def startsWith (front : String) (line : String) : Bool := front.toList.isPrefixOf line.toList

/-- The place of the first closing line at or after `start`. The place where the construct was
opened is a word of 64 bits, and only the failure tells it. -/
def findClosing (closes : String → Bool) (terminator : String) (openedAt : UInt64) (start : Nat)
    (lines : List String) : Except Error Nat :=
  match (lines.drop start).findIdx? closes with
  | some offset => .ok (start + offset)
  | none => .error (.unterminated (openedAt + 1).toNat terminator)

end ClassRecovery.Dump
