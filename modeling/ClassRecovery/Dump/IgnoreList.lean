import ClassRecovery.Text.Blank
import ClassRecovery.Text.Lines

/-!
# Names left out of the model

An ignore list holds qualified names of classes, keys of members and variables. Its entries are
trimmed, none is empty, and each counts once.
-/

set_option autoImplicit false

namespace ClassRecovery

/-- A set of ignored names. -/
structure IgnoreList where
  entries : List String := []
  deriving DecidableEq, Repr, Inhabited

namespace IgnoreList

/-- The name is ignored. -/
def contains (list : IgnoreList) (name : String) : Bool := list.entries.contains name

/-- The number of ignored names. -/
def size (list : IgnoreList) : Nat := list.entries.length

/-- No name is ignored. -/
def isEmpty (list : IgnoreList) : Bool := list.entries.isEmpty

/-- The list with one more name; white space around it does not count, and a blank name is
dropped. -/
def insert (list : IgnoreList) (name : String) : IgnoreList :=
  let entry := Text.trimmed name
  if entry.isEmpty || list.contains entry then list else ⟨list.entries ++ [entry]⟩

/-- The list with more names. -/
def insertMany (list : IgnoreList) (names : List String) : IgnoreList := names.foldl insert list

/-- The list with the names on the lines of a text. -/
def extend (list : IgnoreList) (text : String) : IgnoreList := list.insertMany (Text.lines text)

/-- The list of these names. -/
def ofList (names : List String) : IgnoreList := insertMany {} names

/-- The list of the names on the lines of a text. -/
def ofText (text : String) : IgnoreList := extend {} text

end IgnoreList

end ClassRecovery
