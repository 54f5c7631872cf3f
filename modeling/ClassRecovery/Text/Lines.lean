/-!
# Lines of a text

A line ends with a line feed, and a carriage return right before the line feed belongs to the
line end. What follows the last line feed is a line of its own unless it is empty; there a
carriage return is kept.
-/

set_option autoImplicit false

namespace ClassRecovery.Text

/-- The line whose characters are given in reverse, without the carriage return of its end. -/
def closeLine : List Char → String
  | '\r' :: line => String.ofList line.reverse
  | line => String.ofList line.reverse

/-- The lines of a text of which a part has been read: `done` are its lines in reverse order and
`line` the characters of the open line, in reverse. -/
def linesFrom (line : List Char) (done : List String) : List Char → List String
  | [] => (if line.isEmpty then done else String.ofList line.reverse :: done).reverse
  | '\n' :: rest => linesFrom [] (closeLine line :: done) rest
  | c :: rest => linesFrom (c :: line) done rest

/-- The lines of a text, without their line ends. -/
def lines (text : String) : List String := linesFrom [] [] text.toList

end ClassRecovery.Text
