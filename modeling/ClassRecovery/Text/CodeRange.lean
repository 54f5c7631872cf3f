/-!
# Sets of characters given by ranges of code points

A character class of a standard is a list of inclusive ranges of code points. The ASCII part of
a class is written as a test of its own next to the table, so that the tables start at `0x80`.
-/

set_option autoImplicit false

namespace ClassRecovery.Text

/-- Inclusive ranges of code points, in increasing order. -/
abbrev CodeRanges := List (Nat × Nat)

namespace CodeRanges

/-- The code point lies in one of the ranges. -/
def has (ranges : CodeRanges) (code : Nat) : Bool :=
  ranges.any fun range => range.1 ≤ code && code ≤ range.2

end CodeRanges

/-- A character of the ASCII block. -/
def isAscii (c : Char) : Bool := c.toNat < 0x80

end ClassRecovery.Text
