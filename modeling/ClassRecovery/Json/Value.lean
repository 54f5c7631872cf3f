/-!
# JSON values

A value as its text gives it: numbers keep their literals, and objects keep all their fields in
order, repeated ones as well. An escape may name half of a surrogate pair; a string with such an
escape, or an object with such a key, denotes no text and is kept as `unpaired`.
-/

set_option autoImplicit false

namespace ClassRecovery

/-- A JSON value. -/
inductive Json
  | null
  | bool (value : Bool)
  | number (literal : String)
  | string (text : String)
  | array (items : List Json)
  | object (fields : List (String × Json))
  /-- A string or an object in which half a surrogate pair stands alone. -/
  | unpaired
  deriving Repr, Inhabited

namespace Json

/-- The number of a natural number. -/
def ofNat (n : Nat) : Json := .number (toString n)

/-- An array of strings. -/
def strings (texts : List String) : Json := .array (texts.map .string)

/-- The field of an optional value, if there is one. -/
def optionalField {α : Type} (key : String) (encode : α → Json) (value : Option α) :
    List (String × Json) :=
  match value with
  | some value => [(key, encode value)]
  | none => []

end Json

end ClassRecovery
