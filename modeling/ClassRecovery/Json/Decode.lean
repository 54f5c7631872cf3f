import ClassRecovery.Json.Value

/-!
# Decoding JSON values

A record is an object whose fields are taken by name, or an array that gives them in order. A
field that no record knows is passed over, but a known one may not be repeated, and an array may
not be longer than the record. Each field is required, optional (missing or `null` is `none`), or
has a default for the case that it is missing.
-/

set_option autoImplicit false

namespace ClassRecovery.Json

/-- A string. -/
def asString? : Json → Option String
  | .string text => some text
  | _ => none

/-- A truth value. -/
def asBool? : Json → Option Bool
  | .bool value => some value
  | _ => none

/-- An array of decoded items. -/
def asArray? {α : Type} (decode : Json → Option α) : Json → Option (List α)
  | .array items => items.mapM decode
  | _ => none

/-- A natural number: its literal has digits only. -/
def asNat? : Json → Option Nat
  | .number literal =>
    let digits := literal.toList
    if digits.all Char.isDigit then
      some (digits.foldl (fun value digit => 10 * value + (digit.toNat - '0'.toNat)) 0)
    else none
  | _ => none

/-- A number of 32 bits. -/
def asUInt32? (value : Json) : Option UInt32 :=
  (asNat? value).bind fun n => if n < UInt32.size then some n.toUInt32 else none

/-! ## Records -/

/-- The values of the fields of a record, `none` for those that are missing. -/
def record? (names : List String) : Json → Option (List (Option Json))
  | .object fields =>
    let given (name : String) := (fields.filter fun field => field.1 == name).map (·.2)
    if names.any fun name => 1 < (given name).length then none
    else some (names.map fun name => (given name).head?)
  | .array items =>
    if names.length < items.length then none
    else some (items.map some ++ List.replicate (names.length - items.length) none)
  | _ => none

/-- A field that must be there. -/
def required {α : Type} (decode : Json → Option α) (field : Option Json) : Option α :=
  field.bind decode

/-- A field that may be missing or `null`. -/
def optional {α : Type} (decode : Json → Option α) : Option Json → Option (Option α)
  | none => some none
  | some .null => some none
  | some value => (decode value).map some

/-- A field that has this value if it is missing. -/
def defaulted {α : Type} (value : α) (decode : Json → Option α) : Option Json → Option α
  | none => some value
  | some given => decode given

end ClassRecovery.Json
