import ClassRecovery.Toml.Value

/-!
# TOML scalars

Readers of strings, numbers and times. A reader takes the text from its place on and answers what
it has read and what follows; `none` is a syntax error.
-/

set_option autoImplicit false

namespace ClassRecovery.Toml

/-! ## Characters -/

/-- A blank within a line. -/
def isBlank (c : Char) : Bool := c == ' ' || c == '\t'

/-- The text without blanks at its head. -/
def skipBlanks (s : List Char) : List Char := s.dropWhile isBlank

/-- A character that a string or a comment may hold as it is. -/
def isPlain (c : Char) : Bool := c == '\t' || (0x20 ≤ c.toNat && c.toNat != 0x7F)

/-- What follows a line end. -/
def newline? : List Char → Option (List Char)
  | '\n' :: rest => some rest
  | '\r' :: '\n' :: rest => some rest
  | _ => none

/-- The value of a hexadecimal digit. -/
def hexValue? (c : Char) : Option Nat :=
  if '0' ≤ c && c ≤ '9' then some (c.toNat - '0'.toNat)
  else if 'a' ≤ c && c ≤ 'f' then some (c.toNat - 'a'.toNat + 10)
  else if 'A' ≤ c && c ≤ 'F' then some (c.toNat - 'A'.toNat + 10)
  else none

/-- The character with a number of these hexadecimal digits. -/
def scalar? (digits : List Char) : Option Char := do
  let code ← digits.foldlM (fun value digit => (hexValue? digit).map (16 * value + ·)) 0
  if code.isValidChar then some (Char.ofNat code) else none

/-- The character of an escape whose backslash has been read. -/
def escape? : List Char → Option (Char × List Char)
  | 'b' :: rest => some ('\x08', rest)
  | 'f' :: rest => some ('\x0C', rest)
  | 'n' :: rest => some ('\n', rest)
  | 'r' :: rest => some ('\r', rest)
  | 't' :: rest => some ('\t', rest)
  | '\x22' :: rest => some ('\x22', rest)
  | '\\' :: rest => some ('\\', rest)
  | 'u' :: rest =>
    if rest.length < 4 then none else (scalar? (rest.take 4)).map fun c => (c, rest.drop 4)
  | 'U' :: rest =>
    if rest.length < 8 then none else (scalar? (rest.take 8)).map fun c => (c, rest.drop 8)
  | _ => none

/-! ## Strings -/

/-- The rest of a basic string, after `read` in reverse. -/
def basicFrom? : Nat → List Char → List Char → Option (String × List Char)
  | 0, _, _ => none
  | _ + 1, _, [] => none
  | fuel + 1, read, c :: rest =>
    if c == '\x22' then some (String.ofList read.reverse, rest)
    else if c == '\\' then
      match escape? rest with
      | some (c, rest) => basicFrom? fuel (c :: read) rest
      | none => none
    else if isPlain c then basicFrom? fuel (c :: read) rest
    else none

/-- A basic string whose quote has been read. -/
def basic? (s : List Char) : Option (String × List Char) := basicFrom? (s.length + 1) [] s

/-- A literal string whose quote has been read. -/
def literal? (s : List Char) : Option (String × List Char) :=
  let text := s.takeWhile fun c => isPlain c && c != '\x27'
  match s.drop text.length with
  | '\x27' :: rest => some (String.ofList text, rest)
  | _ => none

/-- The end of a string of several lines at a run of quotes: of up to five quotes the last three
close it, and a run of one or two belongs to the string. The answer is how many quotes belong to
the string and what follows the closing ones. -/
def closeQuotes? (quote : Char) (s : List Char) : Option (Nat × List Char) :=
  let run := (s.takeWhile (· == quote)).length
  if run < 3 then none
  else
    let kept := min (run - 3) 2
    some (kept, s.drop (kept + 3))

/-- What follows a line end that a backslash hides, with all white space after it. -/
def hiddenNewline? (s : List Char) : Option (List Char) :=
  (newline? (skipBlanks s)).map fun rest =>
    skipLines rest.length rest
where
  /-- The text without blanks and line ends at its head. -/
  skipLines : Nat → List Char → List Char
    | 0, s => s
    | fuel + 1, s =>
      match newline? (skipBlanks s) with
      | some rest => skipLines fuel rest
      | none => skipBlanks s

/-- The rest of a string of several lines, after `read` in reverse. A basic one has escapes. -/
def multilineFrom? (quote : Char) : Nat → List Char → List Char → Option (String × List Char)
  | 0, _, _ => none
  | _ + 1, _, [] => none
  | fuel + 1, read, c :: rest =>
    if c == quote then
      match closeQuotes? quote (c :: rest) with
      | some (kept, rest) =>
        some (String.ofList (List.replicate kept quote ++ read).reverse, rest)
      | none => multilineFrom? quote fuel (c :: read) rest
    else if c == '\\' && quote == '\x22' then
      match hiddenNewline? rest with
      | some rest => multilineFrom? quote fuel read rest
      | none =>
        match escape? rest with
        | some (c, rest) => multilineFrom? quote fuel (c :: read) rest
        | none => none
    else
      match newline? (c :: rest) with
      | some rest => multilineFrom? quote fuel ('\n' :: read) rest
      | none => if isPlain c then multilineFrom? quote fuel (c :: read) rest else none

/-- A string of several lines whose three quotes have been read; a line end right after them
does not count. -/
def multiline? (quote : Char) (s : List Char) : Option (String × List Char) :=
  multilineFrom? quote (s.length + 1) [] ((newline? s).getD s)

/-- A string of any form. -/
def string? : List Char → Option (String × List Char)
  | '\x22' :: '\x22' :: '\x22' :: rest => multiline? '\x22' rest
  | '\x22' :: rest => basic? rest
  | '\x27' :: '\x27' :: '\x27' :: rest => multiline? '\x27' rest
  | '\x27' :: rest => literal? rest
  | _ => none

/-! ## Numbers -/

/-- The digits after the first one of a number, without underscores; each underscore stands
between two digits. -/
def moreDigits (isDigit : Char → Bool) : List Char → List Char × List Char
  | '_' :: c :: rest =>
    if isDigit c then
      let (digits, rest) := moreDigits isDigit rest
      (c :: digits, rest)
    else ([], '_' :: c :: rest)
  | c :: rest =>
    if isDigit c then
      let (digits, rest) := moreDigits isDigit rest
      (c :: digits, rest)
    else ([], c :: rest)
  | [] => ([], [])

/-- One or more digits. -/
def digits? (isDigit : Char → Bool) : List Char → Option (List Char × List Char)
  | c :: rest =>
    if isDigit c then
      let (digits, rest) := moreDigits isDigit rest
      some (c :: digits, rest)
    else none
  | [] => none

/-- The digits of a decimal number without leading zeros. -/
def decimalDigits? : List Char → Option (List Char × List Char)
  | '0' :: rest => some (['0'], rest)
  | s => digits? Char.isDigit s

/-- A sign, if there is one, and what follows; the answer says whether it is a minus. -/
def sign : List Char → Bool × List Char
  | '-' :: rest => (true, rest)
  | '+' :: rest => (false, rest)
  | s => (false, s)

/-- The value of digits in a base. -/
def digitsValue (base : Nat) (digits : List Char) : Nat :=
  digits.foldl (fun value digit => base * value + (hexValue? digit).getD 0) 0

/-- An integer in a base with its own mark, of 64 bits with a sign. -/
def basedInteger? (base : Nat) (s : List Char) : Option (Value × List Char) := do
  let (digits, rest) ← digits? (fun c => (hexValue? c).any (· < base)) s
  if digitsValue base digits < Nat.pow 2 63 then some (.number, rest) else none

/-- An integer of 64 bits with a sign. -/
def integer? : List Char → Option (Value × List Char)
  | '0' :: 'x' :: rest => basedInteger? 16 rest
  | '0' :: 'o' :: rest => basedInteger? 8 rest
  | '0' :: 'b' :: rest => basedInteger? 2 rest
  | s => do
    let (negative, unsigned) := sign s
    let (digits, rest) ← decimalDigits? unsigned
    let bound := if negative then Nat.pow 2 63 + 1 else Nat.pow 2 63
    if digitsValue 10 digits < bound then some (.number, rest) else none

/-- The decimal number `digits · 10 ^ exponent` rounds to infinity as a floating-point number of
64 bits: it is at least half a unit above the greatest finite one. -/
def overflows (digits : List Char) (exponent : Int) : Bool :=
  let value := digitsValue 10 digits
  let bound := Nat.pow 2 1024 - Nat.pow 2 970
  let magnitude : Int := (digits.dropWhile (· == '0')).length + exponent
  if value == 0 || magnitude < 308 then false
  else if 310 < magnitude then true
  else if 0 ≤ exponent then bound ≤ value * Nat.pow 10 exponent.toNat
  else bound * Nat.pow 10 (-exponent).toNat ≤ value

/-- The fraction of a floating-point number, if there is one. -/
def fraction? : List Char → Option (List Char × List Char)
  | '.' :: rest => digits? Char.isDigit rest
  | s => some ([], s)

/-- The exponent of a floating-point number, if there is one. -/
def exponent? : List Char → Option (Int × List Char)
  | c :: rest =>
    if c == 'e' || c == 'E' then do
      let (negative, unsigned) := sign rest
      let (digits, rest) ← digits? Char.isDigit unsigned
      let value : Int := digitsValue 10 digits
      some (if negative then -value else value, rest)
    else some (0, c :: rest)
  | [] => some (0, [])

/-- The mark of an infinite number or of none at all. -/
def special? : List Char → Option (Value × List Char)
  | 'i' :: 'n' :: 'f' :: rest => some (.number, rest)
  | 'n' :: 'a' :: 'n' :: rest => some (.number, rest)
  | _ => none

/-- A floating-point number: digits with a fraction, an exponent or both. A positive one must be
finite. -/
def float? (s : List Char) : Option (Value × List Char) := do
  let (negative, unsigned) := sign s
  match special? unsigned with
  | some read => some read
  | none =>
    let (whole, rest) ← decimalDigits? unsigned
    if rest.head?.any fun c => c == '.' || c == 'e' || c == 'E' then
      let (fraction, rest) ← fraction? rest
      let (exponent, rest) ← exponent? rest
      if !negative && overflows (whole ++ fraction) (exponent - fraction.length) then none
      else some (.number, rest)
    else none

/-! ## Times -/

/-- A number of exactly this many digits. -/
def fixedDigits? (count : Nat) (s : List Char) : Option (Nat × List Char) :=
  let digits := s.take count
  if digits.length == count && digits.all Char.isDigit then
    some (digitsValue 10 digits, s.drop count)
  else none

/-- The number of days of a month. -/
def daysOf (year month : Nat) : Nat :=
  let isLeap := year % 4 == 0 && (year % 100 != 0 || year % 400 == 0)
  if month == 2 then (if isLeap then 29 else 28)
  else if month == 4 || month == 6 || month == 9 || month == 11 then 30
  else 31

/-- What follows a date. -/
def date? (s : List Char) : Option (List Char) := do
  let (year, rest) ← fixedDigits? 4 s
  let (month, rest) ← fixedDigits? 2 (← ['-'].isPrefixOf? rest)
  let (day, rest) ← fixedDigits? 2 (← ['-'].isPrefixOf? rest)
  if 1 ≤ month && month ≤ 12 && 1 ≤ day && day ≤ daysOf year month then some rest else none

/-- What follows hours and minutes. -/
def hourMinute? (s : List Char) : Option (List Char) := do
  let (hour, rest) ← fixedDigits? 2 s
  let (minute, rest) ← fixedDigits? 2 (← [':'].isPrefixOf? rest)
  if hour ≤ 23 && minute ≤ 59 then some rest else none

/-- What follows a time of day. -/
def timeOfDay? (s : List Char) : Option (List Char) := do
  let rest ← hourMinute? s
  let (second, rest) ← fixedDigits? 2 (← [':'].isPrefixOf? rest)
  if second ≤ 60 then
    match rest with
    | '.' :: c :: more => if c.isDigit then some (more.dropWhile Char.isDigit) else some rest
    | _ => some rest
  else none

/-- What follows an offset from universal time, if there is one. -/
def afterOffset? : List Char → Option (List Char)
  | c :: rest =>
    if c == 'Z' || c == 'z' then some rest
    else if c == '+' || c == '-' then hourMinute? rest
    else some (c :: rest)
  | [] => some []

/-- What follows the time of day of a date, if it has one. -/
def afterTime? : List Char → Option (List Char)
  | c :: rest =>
    if c == 'T' || c == 't' || c == ' ' then
      match timeOfDay? rest with
      | some rest => afterOffset? rest
      | none => if (rest.take 3).getLast? == some ':' then none else some (c :: rest)
    else some (c :: rest)
  | [] => some []

/-- A date, a time of day, or both. -/
def time? (s : List Char) : Option (Value × List Char) :=
  match (date? s).bind afterTime? with
  | some rest => some (.time, rest)
  | none => (timeOfDay? s).map fun rest => (.time, rest)

end ClassRecovery.Toml
