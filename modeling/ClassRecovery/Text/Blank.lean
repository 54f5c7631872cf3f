/-!
# White space

The characters with the property White_Space, and trimming them off both ends of a text.
-/

set_option autoImplicit false

namespace ClassRecovery.Text

/-- A white-space character: the ASCII controls from tab to carriage return, the space, and the
separators of the other blocks. -/
def isBlank (c : Char) : Bool :=
  let code := c.toNat
  (0x09 ≤ code && code ≤ 0x0D) || code == 0x20 || code == 0x85 || code == 0xA0
    || code == 0x1680 || (0x2000 ≤ code && code ≤ 0x200A) || code == 0x2028 || code == 0x2029
    || code == 0x202F || code == 0x205F || code == 0x3000

/-- The text without white space at its end. -/
def trimRight (s : List Char) : List Char := (s.reverse.dropWhile isBlank).reverse

/-- The text without white space at either end. -/
def trim (s : List Char) : List Char := trimRight (s.dropWhile isBlank)

/-- A string without white space at either end. -/
def trimmed (s : String) : String := String.ofList (trim s.toList)

end ClassRecovery.Text
