/-!
# TOML values

A document is a table. Of numbers and times only the kind is kept. Tables remember how they came
about, because that decides whether a later part of the document may add to them: one that only
stands on the way to another table is implicit, and one made by a dotted key is dotted.
-/

set_option autoImplicit false

namespace ClassRecovery.Toml

/-- How a table came about. -/
structure Origin where
  isImplicit : Bool := false
  isDotted : Bool := false
  deriving DecidableEq, Repr, Inhabited

/-- A value, a table or an array of tables. -/
inductive Value
  | string (text : String)
  | boolean (value : Bool)
  | number
  | time
  | array (items : List Value)
  /-- A table written inline, or a part of one. -/
  | inlineTable (origin : Origin) (entries : List (String × Value))
  | table (origin : Origin) (entries : List (String × Value))
  /-- An array of tables, the last one first. -/
  | tables (entries : List (List (String × Value)))
  deriving Repr, Inhabited

/-- The entries of a table. -/
abbrev Entries := List (String × Value)

namespace Entries

/-- The value of a key. -/
def get? (entries : Entries) (key : String) : Option Value := entries.lookup key

/-- The entries with another value for a key, at the end if the key is new. -/
def put (entries : Entries) (key : String) (value : Value) : Entries :=
  if (entries.lookup key).isSome then
    entries.map fun entry => if entry.1 == key then (key, value) else entry
  else entries ++ [(key, value)]

/-- The entries without a key. -/
def erase (entries : Entries) (key : String) : Entries := entries.filter fun e => e.1 != key

end Entries

end ClassRecovery.Toml
