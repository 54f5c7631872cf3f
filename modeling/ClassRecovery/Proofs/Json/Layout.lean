import ClassRecovery.Json.Printer
import ClassRecovery.Json.Reader

/-!
# Layouts of a JSON text

The compact and the pretty form of a value have the same tokens and differ in the white space
between them. A `Layout` says where white space stands, `spell` prints a value under a layout, and
both forms are of this kind (`compact_eq_spell`, `pretty_eq_spell`). What is proved of `spell` need
not be proved twice.
-/

set_option autoImplicit false

namespace ClassRecovery.Json

/-- White space between the tokens of a text. -/
structure Layout where
  /-- What stands before a part of an array or object at this level, and before the closing bracket
  of one whose parts are a level deeper. -/
  gap : Nat → List Char
  /-- What stands between a key's colon and the value. -/
  afterColon : List Char
  gap_blank : ∀ level, ∀ c ∈ gap level, Reader.isSpace c = true
  afterColon_blank : ∀ c ∈ afterColon, Reader.isSpace c = true

namespace Layout

/-- No white space at all. -/
def tight : Layout where
  gap := fun _ => []
  afterColon := []
  gap_blank := fun _ c h => by cases h
  afterColon_blank := fun c h => by cases h

theorem blank_of_mem_newLine {level : Nat} {c : Char} (h : c ∈ newLine level) :
    Reader.isSpace c = true := by
  rcases List.mem_cons.mp h with rfl | h
  · rfl
  · obtain rfl := List.eq_of_mem_replicate h
    rfl

/-- Every part on a line of its own, and a blank after a colon. -/
def indented : Layout where
  gap := newLine
  afterColon := [' ']
  gap_blank := fun _ _ h => blank_of_mem_newLine h
  afterColon_blank := fun c h => by
    obtain rfl := List.mem_singleton.mp h
    rfl

end Layout

mutual

/-- A value under a layout. -/
def spell (layout : Layout) (level : Nat) : Json → List Char
  | .null => "null".toList
  | .bool true => "true".toList
  | .bool false => "false".toList
  | .number literal => literal.toList
  | .string text => quote text
  | .array [] => ['[', ']']
  | .array (item :: items) =>
    '[' :: layout.gap (level + 1) ++ spell layout (level + 1) item
      ++ spellItems layout (level + 1) items ++ layout.gap level ++ [']']
  | .object [] => ['\x7b', '\x7d']
  | .object ((key, value) :: fields) =>
    '\x7b' :: layout.gap (level + 1) ++ quote key ++ ':' :: layout.afterColon
      ++ spell layout (level + 1) value ++ spellFields layout (level + 1) fields
      ++ layout.gap level ++ ['\x7d']
  | .unpaired => unpairedText

/-- Further items, each after its comma. -/
def spellItems (layout : Layout) (level : Nat) : List Json → List Char
  | [] => []
  | item :: items =>
    ',' :: layout.gap level ++ spell layout level item ++ spellItems layout level items

/-- Further fields, each after its comma. -/
def spellFields (layout : Layout) (level : Nat) : List (String × Json) → List Char
  | [] => []
  | (key, value) :: fields =>
    ',' :: layout.gap level ++ quote key ++ ':' :: layout.afterColon ++ spell layout level value
      ++ spellFields layout level fields

end

mutual

theorem compact_eq_spell (level : Nat) : ∀ v : Json, compact v = spell .tight level v
  | .null | .bool true | .bool false | .number _ | .string _ | .unpaired => rfl
  | .array [] | .object [] => rfl
  | .array (item :: items) => by
      rw [compact, spell, compact_eq_spell (level + 1) item,
        compactItems_eq_spellItems (level + 1) items]
      simp [Layout.tight]
  | .object ((key, value) :: fields) => by
      rw [compact, spell, compact_eq_spell (level + 1) value,
        compactFields_eq_spellFields (level + 1) fields]
      simp [Layout.tight]

theorem compactItems_eq_spellItems (level : Nat) :
    ∀ items : List Json, compactItems items = spellItems .tight level items
  | [] => rfl
  | item :: items => by
      rw [compactItems, spellItems, compact_eq_spell level item,
        compactItems_eq_spellItems level items]
      simp [Layout.tight]

theorem compactFields_eq_spellFields (level : Nat) :
    ∀ fields : List (String × Json), compactFields fields = spellFields .tight level fields
  | [] => rfl
  | (key, value) :: fields => by
      rw [compactFields, spellFields, compact_eq_spell level value,
        compactFields_eq_spellFields level fields]
      simp [Layout.tight]

end

mutual

theorem pretty_eq_spell (level : Nat) : ∀ v : Json, pretty level v = spell .indented level v
  | .null | .bool true | .bool false | .number _ | .string _ | .unpaired => rfl
  | .array [] | .object [] => rfl
  | .array (item :: items) => by
      rw [pretty, spell, pretty_eq_spell (level + 1) item,
        prettyItems_eq_spellItems (level + 1) items]
      rfl
  | .object ((key, value) :: fields) => by
      rw [pretty, spell, pretty_eq_spell (level + 1) value,
        prettyFields_eq_spellFields (level + 1) fields]
      simp [Layout.indented]

theorem prettyItems_eq_spellItems (level : Nat) :
    ∀ items : List Json, prettyItems level items = spellItems .indented level items
  | [] => rfl
  | item :: items => by
      rw [prettyItems, spellItems, pretty_eq_spell level item,
        prettyItems_eq_spellItems level items]
      rfl

theorem prettyFields_eq_spellFields (level : Nat) :
    ∀ fields : List (String × Json), prettyFields level fields = spellFields .indented level fields
  | [] => rfl
  | (key, value) :: fields => by
      rw [prettyFields, spellFields, pretty_eq_spell level value,
        prettyFields_eq_spellFields level fields]
      simp [Layout.indented]

end

/-- The text of a value is spelled under one of the two layouts. -/
theorem toList_print (isPretty : Bool) (v : Json) :
    (v.print isPretty).toList = spell (if isPretty then .indented else .tight) 0 v := by
  rw [print, String.toList_ofList]
  cases isPretty with
  | true => exact pretty_eq_spell 0 v
  | false => exact compact_eq_spell 0 v

end ClassRecovery.Json
