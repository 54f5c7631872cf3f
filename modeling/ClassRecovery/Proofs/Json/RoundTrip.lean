import ClassRecovery.Proofs.Json.Layout
import ClassRecovery.Proofs.Json.Reader

/-!
# Reading what has been printed

A value is read back from its text under any layout (`parse?_print`), if it is `Written`: its
numbers are literals of the grammar and none of its strings lacks half of a surrogate pair. The
induction is on the value; its tokens are taken off the text one after the other.
-/

set_option autoImplicit false

namespace ClassRecovery.Json

namespace Reader

/-- A value is read from its text, whatever follows, as long as that continues no number. -/
def Reads (layout : Layout) (level : Nat) (v : Json) : Prop :=
  ∀ (mayClose : Bool) (stack : List Frame) (rest : List Char), EndsValue rest →
    outcome ⟨.value mayClose, stack⟩ (spell layout level v ++ rest)
      = (deliver v stack).bind (outcome · rest)

variable {layout : Layout} {level : Nat}

theorem endsValue_spellItems (layout : Layout) (level : Nat) (items : List Json)
    {rest : List Char} (hends : EndsValue rest) :
    EndsValue (spellItems layout level items ++ rest) := by
  cases items with
  | nil => exact hends
  | cons item items => exact endsValue_cons endsNumber_comma _

theorem endsValue_spellFields (layout : Layout) (level : Nat) (fields : List (String × Json))
    {rest : List Char} (hends : EndsValue rest) :
    EndsValue (spellFields layout level fields ++ rest) := by
  cases fields with
  | nil => exact hends
  | cons field fields => exact endsValue_cons endsNumber_comma _

/-- An item and its comma join the items of the innermost open array. -/
theorem outcome_spellItems {items : List Json} (hitems : ∀ item ∈ items, Reads layout level item)
    (read : List Json) (stack : List Frame) {rest : List Char} (hends : EndsValue rest) :
    outcome ⟨.separator, .array read :: stack⟩ (spellItems layout level items ++ rest)
      = outcome ⟨.separator, .array (items.reverse ++ read) :: stack⟩ rest := by
  induction items generalizing read with
  | nil => rfl
  | cons item items ih =>
      rw [List.forall_mem_cons] at hitems
      obtain ⟨hitem, hitems⟩ := hitems
      have hmore := endsValue_spellItems layout level items hends
      simp only [spellItems, List.cons_append, List.append_assoc]
      rw [outcome_cons_of_step (t := ⟨.value false, .array read :: stack⟩) rfl,
        outcome_blank rfl (layout.gap_blank level), hitem false _ _ hmore]
      show outcome ⟨.separator, .array (item :: read) :: stack⟩ _ = _
      rw [ih hitems, List.reverse_cons, List.append_assoc, List.singleton_append]

/-- A key, its colon and its value where a key may begin. -/
theorem outcome_field {key : String} {v : Json} (hv : Reads layout level v) (mayClose : Bool)
    (fields : List (String × Json)) (stack : List Frame) {rest : List Char}
    (hends : EndsValue rest) :
    outcome ⟨.key mayClose, .object fields true :: stack⟩
        (quote key ++ ':' :: (layout.afterColon ++ (spell layout level v ++ rest)))
      = outcome ⟨.separator, .object ((key, v) :: fields) true :: stack⟩ rest := by
  rw [outcome_key,
    outcome_cons_of_step (t := ⟨.value false, .field (some key) fields true :: stack⟩) rfl,
    outcome_blank rfl layout.afterColon_blank, hv false _ _ hends]
  rfl

/-- A field and its comma join the fields of the innermost open object. -/
theorem outcome_spellFields {fields : List (String × Json)}
    (hfields : ∀ field ∈ fields, Reads layout level field.2) (read : List (String × Json))
    (stack : List Frame) {rest : List Char} (hends : EndsValue rest) :
    outcome ⟨.separator, .object read true :: stack⟩ (spellFields layout level fields ++ rest)
      = outcome ⟨.separator, .object (fields.reverse ++ read) true :: stack⟩ rest := by
  induction fields generalizing read with
  | nil => rfl
  | cons field fields ih =>
      obtain ⟨key, v⟩ := field
      rw [List.forall_mem_cons] at hfields
      obtain ⟨hv, hfields⟩ := hfields
      have hmore := endsValue_spellFields layout level fields hends
      simp only [spellFields, List.cons_append, List.append_assoc]
      rw [outcome_cons_of_step (t := ⟨.key false, .object read true :: stack⟩) rfl,
        outcome_blank rfl (layout.gap_blank level), outcome_field hv _ _ _ hmore, ih hfields,
        List.reverse_cons, List.append_assoc, List.singleton_append]

theorem reads_array {items : List Json} (hitems : ∀ item ∈ items, Reads layout (level + 1) item) :
    Reads layout level (.array items) := by
  intro mayClose stack rest hends
  cases items with
  | nil =>
      simp only [spell, List.cons_append, List.nil_append]
      rw [outcome_cons_of_step (t := ⟨.value true, .array [] :: stack⟩) rfl, outcome_cons]
      rfl
  | cons item items =>
      rw [List.forall_mem_cons] at hitems
      obtain ⟨hitem, hitems⟩ := hitems
      have hclosing : EndsValue (layout.gap level ++ ']' :: rest) :=
        endsValue_blank (layout.gap_blank level) (endsValue_cons endsNumber_bracket rest)
      have hmore := endsValue_spellItems layout (level + 1) items hclosing
      simp only [spell, List.cons_append, List.append_assoc, List.nil_append]
      rw [outcome_cons_of_step (t := ⟨.value true, .array [] :: stack⟩) rfl,
        outcome_blank rfl (layout.gap_blank (level + 1)), hitem true _ _ hmore]
      show outcome ⟨.separator, .array [item] :: stack⟩ _ = _
      rw [outcome_spellItems hitems _ _ hclosing, outcome_blank rfl (layout.gap_blank level),
        outcome_cons]
      show (deliver (.array (items.reverse ++ [item]).reverse) stack).bind _ = _
      rw [List.reverse_append, List.reverse_reverse]
      rfl

theorem reads_object {fields : List (String × Json)}
    (hfields : ∀ field ∈ fields, Reads layout (level + 1) field.2) :
    Reads layout level (.object fields) := by
  intro mayClose stack rest hends
  cases fields with
  | nil =>
      simp only [spell, List.cons_append, List.nil_append]
      rw [outcome_cons_of_step (t := ⟨.key true, .object [] true :: stack⟩) rfl, outcome_cons]
      rfl
  | cons field fields =>
      obtain ⟨key, v⟩ := field
      rw [List.forall_mem_cons] at hfields
      obtain ⟨hv, hfields⟩ := hfields
      have hclosing : EndsValue (layout.gap level ++ '\x7d' :: rest) :=
        endsValue_blank (layout.gap_blank level) (endsValue_cons endsNumber_brace rest)
      have hmore := endsValue_spellFields layout (level + 1) fields hclosing
      simp only [spell, List.cons_append, List.append_assoc, List.nil_append]
      rw [outcome_cons_of_step (t := ⟨.key true, .object [] true :: stack⟩) rfl,
        outcome_blank rfl (layout.gap_blank (level + 1)), outcome_field hv _ _ _ hmore,
        outcome_spellFields hfields _ _ hclosing, outcome_blank rfl (layout.gap_blank level),
        outcome_cons]
      show (deliver (.object (fields.reverse ++ [(key, v)]).reverse) stack).bind _ = _
      rw [List.reverse_append, List.reverse_reverse]
      rfl

end Reader

/-- The value has a text of its own: its numbers are literals, and no string of it lacks half of a
surrogate pair. -/
inductive Written : Json → Prop
  | null : Written .null
  | bool (value : Bool) : Written (.bool value)
  | number {literal : String} (h : Reader.IsLiteral literal) : Written (.number literal)
  | string (text : String) : Written (.string text)
  | array {items : List Json} (h : ∀ item ∈ items, Written item) : Written (.array items)
  | object {fields : List (String × Json)} (h : ∀ field ∈ fields, Written field.2) :
    Written (.object fields)

theorem Written.reads {v : Json} (h : v.Written) (layout : Layout) (level : Nat) :
    Reader.Reads layout level v := by
  induction h generalizing level with
  | null =>
      intro mayClose stack rest _
      exact (Reader.outcome_cons_of_step rfl _).trans
        (Reader.outcome_word .null stack ['u', 'l'] 'l' rest)
  | bool value =>
      intro mayClose stack rest _
      cases value with
      | true =>
          exact (Reader.outcome_cons_of_step rfl _).trans
            (Reader.outcome_word (.bool true) stack ['r', 'u'] 'e' rest)
      | false =>
          exact (Reader.outcome_cons_of_step rfl _).trans
            (Reader.outcome_word (.bool false) stack ['a', 'l', 's'] 'e' rest)
  | number h => exact fun mayClose stack _ hends => Reader.outcome_number h mayClose stack hends
  | string text => exact fun mayClose stack rest _ => Reader.outcome_string text mayClose stack rest
  | array _ ih => exact Reader.reads_array fun item hitem => ih item hitem (level + 1)
  | object _ ih => exact Reader.reads_object fun field hfield => ih field hfield (level + 1)

/-- **Reading what has been printed.** A value is the one its text is read as, in either form. -/
theorem parse?_print {v : Json} (h : v.Written) (isPretty : Bool) :
    parse? (v.print isPretty) = some v := by
  have hread := h.reads (if isPretty then .indented else .tight) 0 false [] [] Reader.endsValue_nil
  rw [List.append_nil] at hread
  rw [Reader.parse?_eq_outcome, toList_print]
  exact hread

end ClassRecovery.Json
