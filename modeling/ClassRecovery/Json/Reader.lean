import ClassRecovery.Json.Value

/-!
# Reading JSON

The reader goes through the text one character at a time. Its state is a stack of the arrays and
objects that are open, innermost first, and a mode that says what may come next; reading a text
is a fold of `step` over its characters. So what the reader does on two texts one after the other
is what it does on the second from the state after the first.
-/

set_option autoImplicit false

namespace ClassRecovery.Json

namespace Reader

/-! ## State -/

/-- How far a number has been read. -/
inductive NumberShape
  | minus
  | zero
  | whole
  | point
  | fraction
  | exponentMark
  | exponentSign
  | exponent
  deriving DecidableEq, Repr

/-- The shape of a number after one more character; `none` if the character does not continue
it. -/
def NumberShape.next? (shape : NumberShape) (c : Char) : Option NumberShape :=
  match shape with
  | .minus => if c = '0' then some .zero else if c.isDigit then some .whole else none
  | .zero =>
    if c = '.' then some .point
    else if c = 'e' || c = 'E' then some .exponentMark
    else none
  | .whole =>
    if c.isDigit then some .whole
    else if c = '.' then some .point
    else if c = 'e' || c = 'E' then some .exponentMark
    else none
  | .point => if c.isDigit then some .fraction else none
  | .fraction =>
    if c.isDigit then some .fraction
    else if c = 'e' || c = 'E' then some .exponentMark
    else none
  | .exponentMark =>
    if c.isDigit then some .exponent
    else if c = '+' || c = '-' then some .exponentSign
    else none
  | .exponentSign => if c.isDigit then some .exponent else none
  | .exponent => if c.isDigit then some .exponent else none

/-- A number may end here. -/
def NumberShape.isComplete : NumberShape → Bool
  | .zero | .whole | .fraction | .exponent => true
  | _ => false

/-- What has been read of a string: its characters in reverse, the first half of a surrogate pair
if the last escape was one, and whether all pairs so far were complete. -/
structure StringRead where
  chars : List Char := []
  high : Option Nat := none
  isSound : Bool := true
  deriving DecidableEq, Repr, Inhabited

/-- The string with one more character. -/
def StringRead.push (s : StringRead) (c : Char) : StringRead :=
  { chars := c :: s.chars, isSound := s.isSound && s.high.isNone }

/-- The string with one more unit of sixteen bits. -/
def StringRead.pushUnit (s : StringRead) (unit : Nat) : StringRead :=
  if 0xD800 ≤ unit && unit < 0xDC00 then
    { s with high := some unit, isSound := s.isSound && s.high.isNone }
  else if 0xDC00 ≤ unit && unit < 0xE000 then
    match s.high with
    | some high =>
      { chars := Char.ofNat (0x10000 + (high - 0xD800) * 0x400 + (unit - 0xDC00)) :: s.chars
        isSound := s.isSound }
    | none => { s with isSound := false }
  else s.push (Char.ofNat unit)

/-- The text of a string that is complete. -/
def StringRead.text? (s : StringRead) : Option String :=
  if s.isSound && s.high.isNone then some (String.ofList s.chars.reverse) else none

/-- What may come next. -/
inductive Mode
  /-- A value, or also the end of an array. -/
  | value (mayClose : Bool)
  /-- A key, or also the end of an object. -/
  | key (mayClose : Bool)
  /-- The colon after a key. -/
  | colon (key : Option String)
  /-- A comma or a closing bracket. -/
  | separator
  /-- The rest of a word. -/
  | word (rest : List Char) (value : Json)
  /-- The rest of a number, read so far in reverse. -/
  | number (shape : NumberShape) (read : List Char)
  /-- The rest of a string. -/
  | string (isKey : Bool) (read : StringRead)
  /-- What follows a backslash in a string. -/
  | escape (isKey : Bool) (read : StringRead)
  /-- Further hexadecimal digits of a unit in a string. -/
  | unit (isKey : Bool) (read : StringRead) (count value : Nat)
  /-- Nothing: the value is complete. -/
  | done (value : Json)
  deriving Repr

/-- An open array or object; what it holds is in reverse. -/
inductive Frame
  | array (items : List Json)
  /-- An object between two fields; `isSound` says that all its keys are texts. -/
  | object (fields : List (String × Json)) (isSound : Bool)
  /-- An object whose field with this key waits for its value. -/
  | field (key : Option String) (fields : List (String × Json)) (isSound : Bool)
  deriving Repr

/-- The state of the reader. -/
structure State where
  mode : Mode := .value false
  stack : List Frame := []
  deriving Repr

/-! ## Steps -/

/-- The state after a value has been read. -/
def deliver (value : Json) : List Frame → Option State
  | [] => some ⟨.done value, []⟩
  | .array items :: stack => some ⟨.separator, .array (value :: items) :: stack⟩
  | .field (some key) fields isSound :: stack =>
    some ⟨.separator, .object ((key, value) :: fields) isSound :: stack⟩
  | .field none fields _ :: stack => some ⟨.separator, .object fields false :: stack⟩
  | .object .. :: _ => none

/-- The state after the closing bracket of the innermost open array or object. -/
def close (c : Char) : List Frame → Option State
  | .array items :: stack => if c = ']' then deliver (.array items.reverse) stack else none
  | .object fields isSound :: stack =>
    if c = '\x7d' then deliver (if isSound then .object fields.reverse else .unpaired) stack
    else none
  | _ => none

/-- White space between tokens. -/
def isSpace (c : Char) : Bool := c = ' ' || c = '\n' || c = '\t' || c = '\r'

/-- The state after the first character of a value. -/
def beginValue (mayClose : Bool) (stack : List Frame) (c : Char) : Option State :=
  if c = '\x22' then some ⟨.string false {}, stack⟩
  else if c = '\x7b' then some ⟨.key true, .object [] true :: stack⟩
  else if c = '[' then some ⟨.value true, .array [] :: stack⟩
  else if c = '-' then some ⟨.number .minus [c], stack⟩
  else if c = '0' then some ⟨.number .zero [c], stack⟩
  else if c.isDigit then some ⟨.number .whole [c], stack⟩
  else if c = 't' then some ⟨.word ['r', 'u', 'e'] (.bool true), stack⟩
  else if c = 'f' then some ⟨.word ['a', 'l', 's', 'e'] (.bool false), stack⟩
  else if c = 'n' then some ⟨.word ['u', 'l', 'l'] .null, stack⟩
  else if mayClose then close c stack
  else none

/-- The state after a comma. -/
def afterComma : List Frame → Option State
  | .array items :: stack => some ⟨.value false, .array items :: stack⟩
  | .object fields isSound :: stack => some ⟨.key false, .object fields isSound :: stack⟩
  | _ => none

/-- The state after a string, which may be a key. -/
def endString (isKey : Bool) (read : StringRead) (stack : List Frame) : Option State :=
  if isKey then some ⟨.colon read.text?, stack⟩
  else deliver ((read.text?.map Json.string).getD .unpaired) stack

/-- The character of an escape of one letter. -/
def escaped? (c : Char) : Option Char :=
  if c = '\x22' || c = '\\' || c = '/' then some c
  else if c = 'b' then some '\x08'
  else if c = 'f' then some '\x0C'
  else if c = 'n' then some '\n'
  else if c = 'r' then some '\r'
  else if c = 't' then some '\t'
  else none

/-- The value of a hexadecimal digit. -/
def hexValue? (c : Char) : Option Nat :=
  if '0' ≤ c && c ≤ '9' then some (c.toNat - '0'.toNat)
  else if 'a' ≤ c && c ≤ 'f' then some (c.toNat - 'a'.toNat + 10)
  else if 'A' ≤ c && c ≤ 'F' then some (c.toNat - 'A'.toNat + 10)
  else none

/-- The state after one more character, where no number is being read. -/
def stepMode (st : State) (c : Char) : Option State :=
  match st.mode with
  | .value mayClose => if isSpace c then some st else beginValue mayClose st.stack c
  | .key mayClose =>
    if isSpace c then some st
    else if c = '\x22' then some { st with mode := .string true {} }
    else if mayClose then close c st.stack
    else none
  | .colon key =>
    if isSpace c then some st
    else if c = ':' then
      match st.stack with
      | .object fields isSound :: stack =>
        some ⟨.value false, .field key fields isSound :: stack⟩
      | _ => none
    else none
  | .separator =>
    if isSpace c then some st
    else if c = ',' then afterComma st.stack
    else close c st.stack
  | .word rest value =>
    match rest with
    | [last] => if c = last then deliver value st.stack else none
    | next :: more => if c = next then some { st with mode := .word more value } else none
    | [] => none
  | .string isKey read =>
    if c = '\x22' then endString isKey read st.stack
    else if c = '\\' then some { st with mode := .escape isKey read }
    else if c.toNat < 0x20 then none
    else some { st with mode := .string isKey (read.push c) }
  | .escape isKey read =>
    if c = 'u' then some { st with mode := .unit isKey read 0 0 }
    else (escaped? c).map fun c => { st with mode := .string isKey (read.push c) }
  | .unit isKey read count value =>
    (hexValue? c).map fun digit =>
      let value := 16 * value + digit
      if count = 3 then { st with mode := .string isKey (read.pushUnit value) }
      else { st with mode := .unit isKey read (count + 1) value }
  | .done _ => if isSpace c then some st else none
  | .number .. => none

/-- The state after the end of a number. -/
def endNumber (shape : NumberShape) (read : List Char) (stack : List Frame) : Option State :=
  if shape.isComplete then deliver (.number (String.ofList read.reverse)) stack else none

/-- The state after one more character. A character that does not continue a number ends it. -/
def step (st : State) (c : Char) : Option State :=
  match st.mode with
  | .number shape read =>
    match shape.next? c with
    | some next => some { st with mode := .number next (c :: read) }
    | none => (endNumber shape read st.stack).bind fun st => stepMode st c
  | _ => stepMode st c

/-- The value that has been read when the text ends. -/
def finish? (st : State) : Option Json :=
  match st.mode with
  | .done value => some value
  | .number shape read =>
    match endNumber shape read st.stack with
    | some ⟨.done value, _⟩ => some value
    | _ => none
  | _ => none

end Reader

/-- The value of a text; `none` if the text is not JSON. -/
def parse? (text : String) : Option Json :=
  (text.toList.foldlM Reader.step {}).bind Reader.finish?

end ClassRecovery.Json
