import ClassRecovery.Json.Reader
import ClassRecovery.Json.Printer

/-!
# Tokens of a JSON text

`outcome` says what comes of the rest of a text from a state of the reader on. For every kind of
token there is a lemma that takes it off the front of the text: white space, a word, a quoted
string, a number. Only a number does not tell its own end: the character after it ends it, which is
why its lemma asks what the text goes on with (`EndsValue`).
-/

set_option autoImplicit false

namespace ClassRecovery.Json.Reader

/-! ## Reading the rest of a text -/

/-- The value that is read in the end, if this text follows. -/
def outcome (st : State) (text : List Char) : Option Json := (text.foldlM step st).bind finish?

theorem parse?_eq_outcome (text : String) : parse? text = outcome {} text.toList := rfl

theorem outcome_nil (st : State) : outcome st [] = finish? st := rfl

theorem outcome_cons (st : State) (c : Char) (rest : List Char) :
    outcome st (c :: rest) = (step st c).bind (outcome · rest) := by
  unfold outcome
  rw [List.foldlM_cons]
  cases step st c <;> rfl

/-- A character that leads to one state. -/
theorem outcome_cons_of_step {st t : State} {c : Char} (h : step st c = some t)
    (rest : List Char) : outcome st (c :: rest) = outcome t rest := by
  rw [outcome_cons, h]
  rfl

/-! ## White space -/

/-- White space may stand here. -/
def Mode.isBetween : Mode → Bool
  | .value _ | .key _ | .colon _ | .separator => true
  | _ => false

theorem step_of_isSpace {st : State} {c : Char} (hmode : st.mode.isBetween = true)
    (hc : isSpace c = true) : step st c = some st := by
  obtain ⟨mode, stack⟩ := st
  cases mode with
  | value | key | colon | separator => simp [step, stepMode, hc]
  | word | number | string | escape | unit | done => cases hmode

theorem outcome_blank {st : State} (hmode : st.mode.isBetween = true) {gap : List Char}
    (hgap : ∀ c ∈ gap, isSpace c = true) (rest : List Char) :
    outcome st (gap ++ rest) = outcome st rest := by
  induction gap with
  | nil => rfl
  | cons c gap ih =>
      rw [List.forall_mem_cons] at hgap
      rw [List.cons_append, outcome_cons_of_step (step_of_isSpace hmode hgap.1), ih hgap.2]

/-! ## Words -/

/-- What is left of a word, up to its last character. -/
theorem outcome_word (v : Json) (stack : List Frame) (more : List Char) (last : Char)
    (rest : List Char) :
    outcome ⟨.word (more ++ [last]) v, stack⟩ (more ++ last :: rest)
      = (deliver v stack).bind (outcome · rest) := by
  induction more with
  | nil =>
      rw [List.nil_append, List.nil_append, outcome_cons]
      simp [step, stepMode]
  | cons c more ih =>
      have hstep : step ⟨.word (c :: (more ++ [last])) v, stack⟩ c
          = some ⟨.word (more ++ [last]) v, stack⟩ := by
        cases more <;> simp [step, stepMode]
      rw [List.cons_append, List.cons_append, outcome_cons_of_step hstep, ih]

/-! ## Strings -/

theorem hexValue?_hexDigit : ∀ n < 16, hexValue? (hexDigit n) = some n := by decide

/-- Four hexadecimal digits of which the first two are zero. -/
theorem outcome_unit {high low : Nat} (hhigh : high < 2) (hlow : low < 16) (isKey : Bool)
    (chars : List Char) (stack : List Frame) (rest : List Char) :
    outcome ⟨.unit isKey { chars := chars } 0 0, stack⟩
        ('0' :: '0' :: hexDigit high :: hexDigit low :: rest)
      = outcome ⟨.string isKey { chars := Char.ofNat (16 * high + low) :: chars }, stack⟩ rest := by
  have hhighDigit := hexValue?_hexDigit high (by omega)
  have hlowDigit := hexValue?_hexDigit low hlow
  have hzero : hexValue? '0' = some 0 := rfl
  rw [outcome_cons_of_step (t := ⟨.unit isKey { chars := chars } 1 0, stack⟩) rfl,
    outcome_cons_of_step (t := ⟨.unit isKey { chars := chars } 2 0, stack⟩) rfl,
    outcome_cons_of_step (t := ⟨.unit isKey { chars := chars } 3 high, stack⟩)
      (by simp [step, stepMode, hhighDigit])]
  refine outcome_cons_of_step ?_ rest
  -- a unit below 32 is no half of a pair
  have hlower : ¬ 0xD800 ≤ 16 * high + low := by omega
  have hlower' : ¬ 0xDC00 ≤ 16 * high + low := by omega
  simp [step, stepMode, hlowDigit, StringRead.pushUnit, hlower, hlower', StringRead.push]

/-- A character of a string is read from its escape. -/
theorem outcome_escape (c : Char) (isKey : Bool) (chars : List Char) (stack : List Frame)
    (rest : List Char) :
    outcome ⟨.string isKey { chars := chars }, stack⟩ (Json.escape c ++ rest)
      = outcome ⟨.string isKey { chars := c :: chars }, stack⟩ rest := by
  unfold Json.escape
  split
  · next h => subst h; rfl
  split
  · next h => subst h; rfl
  split
  · next h => subst h; rfl
  split
  · next h => subst h; rfl
  split
  · next h => subst h; rfl
  split
  · next h => subst h; rfl
  split
  · next h => subst h; rfl
  split
  · next hcontrol =>
    have hunit : Char.ofNat (16 * (c.toNat / 16) + c.toNat % 16) = c := by
      rw [show 16 * (c.toNat / 16) + c.toNat % 16 = c.toNat by omega]
      exact Char.ofNat_toNat c
    have hhigh : c.toNat / 16 < 2 := by omega
    have hlow : c.toNat % 16 < 16 := by omega
    have hread := outcome_unit hhigh hlow isKey chars stack rest
    rw [hunit] at hread
    exact hread
  · next hquote hbackslash _ _ _ _ _ hcontrol =>
    refine outcome_cons_of_step ?_ rest
    simp [step, stepMode, hquote, hbackslash, hcontrol]
    rfl

/-- The characters of a string are read from their escapes. -/
theorem outcome_escapes (text : List Char) (isKey : Bool) (chars : List Char) (stack : List Frame)
    (rest : List Char) :
    outcome ⟨.string isKey { chars := chars }, stack⟩ (text.flatMap Json.escape ++ rest)
      = outcome ⟨.string isKey { chars := text.reverse ++ chars }, stack⟩ rest := by
  induction text generalizing chars with
  | nil => rfl
  | cons c text ih =>
      rw [List.flatMap_cons, List.append_assoc, outcome_escape, ih, List.reverse_cons,
        List.append_assoc, List.singleton_append]

theorem text?_reverse (text : String) :
    StringRead.text? { chars := text.toList.reverse ++ [] } = some text := by
  simp [StringRead.text?]

/-- A quoted text where a value may begin. -/
theorem outcome_string (text : String) (mayClose : Bool) (stack : List Frame) (rest : List Char) :
    outcome ⟨.value mayClose, stack⟩ (quote text ++ rest)
      = (deliver (.string text) stack).bind (outcome · rest) := by
  unfold quote
  rw [List.append_assoc, List.cons_append,
    outcome_cons_of_step (t := ⟨.string false {}, stack⟩) rfl, outcome_escapes]
  show outcome _ ('\x22' :: rest) = _
  rw [outcome_cons]
  show (endString false _ stack).bind _ = _
  rw [endString, text?_reverse]
  rfl

/-- A quoted text where a key may begin. -/
theorem outcome_key (key : String) (mayClose : Bool) (stack : List Frame) (rest : List Char) :
    outcome ⟨.key mayClose, stack⟩ (quote key ++ rest)
      = outcome ⟨.colon (some key), stack⟩ rest := by
  unfold quote
  rw [List.append_assoc, List.cons_append,
    outcome_cons_of_step (t := ⟨.string true {}, stack⟩) rfl, outcome_escapes]
  show outcome _ ('\x22' :: rest) = _
  rw [outcome_cons]
  show (endString true _ stack).bind _ = _
  rw [endString, text?_reverse]
  rfl

/-! ## The end of a value -/

/-- The character continues no number. -/
def EndsNumber (c : Char) : Prop := ∀ shape : NumberShape, shape.next? c = none

/-- The text does not go on with a number. -/
def EndsValue (rest : List Char) : Prop := ∀ c, rest.head? = some c → EndsNumber c

theorem endsNumber_of_isSpace {c : Char} (h : isSpace c = true) : EndsNumber c := by
  simp only [isSpace, Bool.or_eq_true, decide_eq_true_eq] at h
  rcases h with ((rfl | rfl) | rfl) | rfl <;> intro shape <;> cases shape <;> rfl

theorem endsNumber_comma : EndsNumber ',' := by intro shape; cases shape <;> rfl

theorem endsNumber_bracket : EndsNumber ']' := by intro shape; cases shape <;> rfl

theorem endsNumber_brace : EndsNumber '\x7d' := by intro shape; cases shape <;> rfl

theorem endsValue_nil : EndsValue [] := fun c h => by cases h

theorem endsValue_cons {c : Char} (h : EndsNumber c) (rest : List Char) : EndsValue (c :: rest) :=
  fun _ heq => Option.some.inj heq ▸ h

theorem endsValue_blank {gap rest : List Char} (hgap : ∀ c ∈ gap, isSpace c = true)
    (h : EndsValue rest) : EndsValue (gap ++ rest) := by
  cases gap with
  | nil => exact h
  | cons c gap => exact endsValue_cons (endsNumber_of_isSpace (hgap c List.mem_cons_self)) _

/-! ## Numbers -/

/-- The shape of a number that begins with this character. -/
def NumberShape.first? (c : Char) : Option NumberShape :=
  if c = '-' then some .minus
  else if c = '0' then some .zero
  else if c.isDigit then some .whole
  else none

/-- The shape of a number with these characters. -/
def NumberShape.ofChars? : List Char → Option NumberShape
  | [] => none
  | c :: rest => (first? c).bind fun shape => rest.foldlM next? shape

/-- The text is a number. -/
def IsLiteral (literal : String) : Prop :=
  ∃ shape, NumberShape.ofChars? literal.toList = some shape ∧ shape.isComplete = true

theorem beginValue_of_first? {c : Char} {shape : NumberShape} (h : NumberShape.first? c = some shape)
    (mayClose : Bool) (stack : List Frame) :
    beginValue mayClose stack c = some ⟨.number shape [c], stack⟩ := by
  unfold NumberShape.first? at h
  split at h
  · next hc => subst hc; cases h; rfl
  split at h
  · next hc => subst hc; cases h; rfl
  split at h
  · next hminus hzero hdigit =>
    cases h
    have hquote : c ≠ '\x22' := by rintro rfl; cases hdigit
    have hbrace : c ≠ '\x7b' := by rintro rfl; cases hdigit
    have hbracket : c ≠ '[' := by rintro rfl; cases hdigit
    simp [beginValue, hquote, hbrace, hbracket, hminus, hzero, hdigit]
  · cases h

theorem not_isSpace_of_first? {c : Char} {shape : NumberShape}
    (h : NumberShape.first? c = some shape) : isSpace c = false := by
  cases hspace : isSpace c with
  | false => rfl
  | true =>
      simp only [isSpace, Bool.or_eq_true, decide_eq_true_eq] at hspace
      rcases hspace with ((rfl | rfl) | rfl) | rfl <;> cases h

/-- The characters that continue a number. -/
theorem outcome_digits {more : List Char} {shape last : NumberShape}
    (h : more.foldlM NumberShape.next? shape = some last) (read : List Char) (stack : List Frame)
    (rest : List Char) :
    outcome ⟨.number shape read, stack⟩ (more ++ rest)
      = outcome ⟨.number last (more.reverse ++ read), stack⟩ rest := by
  induction more generalizing shape read with
  | nil =>
      cases h
      rfl
  | cons c more ih =>
      rw [List.foldlM_cons] at h
      obtain ⟨next, hnext, h⟩ := Option.bind_eq_some_iff.mp h
      have hstep : step ⟨.number shape read, stack⟩ c = some ⟨.number next (c :: read), stack⟩ := by
        simp [step, hnext]
      rw [List.cons_append, outcome_cons_of_step hstep, ih h, List.reverse_cons, List.append_assoc,
        List.singleton_append]

/-- After a value the text is at its end or goes on with a separator. -/
theorem mode_of_deliver {v : Json} {stack : List Frame} {st : State}
    (h : deliver v stack = some st) : st.mode = .done v ∨ st.mode = .separator := by
  unfold deliver at h
  split at h <;> cases h
  · exact .inl rfl
  · exact .inr rfl
  · exact .inr rfl
  · exact .inr rfl

/-- A number that is complete ends where the text does not go on with a number. -/
theorem outcome_endNumber {shape : NumberShape} (hcomplete : shape.isComplete = true)
    (read : List Char) (stack : List Frame) {rest : List Char} (hends : EndsValue rest) :
    outcome ⟨.number shape read, stack⟩ rest
      = (deliver (.number (String.ofList read.reverse)) stack).bind (outcome · rest) := by
  have hend : endNumber shape read stack = deliver (.number (String.ofList read.reverse)) stack :=
    if_pos hcomplete
  cases rest with
  | nil =>
      rw [outcome_nil, finish?]
      dsimp only
      rw [hend]
      cases hdeliver : deliver (.number (String.ofList read.reverse)) stack with
      | none => rfl
      | some st =>
          obtain ⟨mode, stack⟩ := st
          rcases mode_of_deliver hdeliver with rfl | rfl <;> rfl
  | cons c rest =>
      have hnext : shape.next? c = none := hends c rfl shape
      rw [outcome_cons, step]
      dsimp only
      rw [hnext]
      dsimp only
      rw [hend]
      cases hdeliver : deliver (.number (String.ofList read.reverse)) stack with
      | none => rfl
      | some st =>
          have hstep : step st c = stepMode st c := by
            obtain ⟨mode, stack⟩ := st
            rcases mode_of_deliver hdeliver with rfl | rfl <;> rfl
          rw [Option.bind_some, Option.bind_some, outcome_cons, hstep]

/-- A number where a value may begin. -/
theorem outcome_number {literal : String} (hliteral : IsLiteral literal) (mayClose : Bool)
    (stack : List Frame) {rest : List Char} (hends : EndsValue rest) :
    outcome ⟨.value mayClose, stack⟩ (literal.toList ++ rest)
      = (deliver (.number literal) stack).bind (outcome · rest) := by
  obtain ⟨last, hchars, hcomplete⟩ := hliteral
  cases hlist : literal.toList with
  | nil =>
      rw [hlist] at hchars
      cases hchars
  | cons c more =>
      rw [hlist] at hchars
      obtain ⟨shape, hfirst, hmore⟩ := Option.bind_eq_some_iff.mp hchars
      have hstep : step ⟨.value mayClose, stack⟩ c = some ⟨.number shape [c], stack⟩ := by
        simp [step, stepMode, not_isSpace_of_first? hfirst, beginValue_of_first? hfirst]
      have htext : String.ofList (more.reverse ++ [c]).reverse = literal := by
        rw [List.reverse_append, List.reverse_reverse]
        show String.ofList (c :: more) = literal
        rw [← hlist, String.ofList_toList]
      rw [List.cons_append, outcome_cons_of_step hstep, outcome_digits hmore,
        outcome_endNumber hcomplete _ _ hends, htext]

theorem NumberShape.ofChars?_concat {chars : List Char} {shape : NumberShape}
    (h : ofChars? chars = some shape) (c : Char) : ofChars? (chars ++ [c]) = shape.next? c := by
  cases chars with
  | nil => cases h
  | cons first more =>
      obtain ⟨begun, hfirst, hmore⟩ := Option.bind_eq_some_iff.mp h
      show (first? first).bind (fun shape => (more ++ [c]).foldlM next? shape) = _
      rw [hfirst, Option.bind_some, List.foldlM_append, hmore]
      show (shape.next? c).bind some = _
      exact Option.bind_fun_some _

/-- The digits of a positive number do not begin with a zero. -/
theorem NumberShape.ofChars?_toDigits {n : Nat} (hpos : 0 < n) :
    ofChars? (Nat.toDigits 10 n) = some .whole := by
  induction n using Nat.strongRecOn with
  | ind n ih =>
      by_cases hn : n < 10
      · rw [Nat.toDigits_of_lt_base hn]
        have hdigit : ∀ d < 10, 0 < d → ofChars? [Nat.digitChar d] = some .whole := by decide
        exact hdigit n hn hpos
      · have hlast : ∀ d < 10, NumberShape.whole.next? (Nat.digitChar d) = some .whole := by decide
        rw [Nat.toDigits_of_base_le (by decide) (by omega),
          ofChars?_concat (ih (n / 10) (by omega) (by omega))]
        exact hlast (n % 10) (by omega)

theorem isLiteral_toString (n : Nat) : IsLiteral (toString n) := by
  have hdigits : (toString n).toList = Nat.toDigits 10 n := Nat.toList_repr
  unfold IsLiteral
  rw [hdigits]
  by_cases hpos : 0 < n
  · exact ⟨.whole, NumberShape.ofChars?_toDigits hpos, rfl⟩
  · obtain rfl : n = 0 := by omega
    exact ⟨.zero, rfl, rfl⟩

end ClassRecovery.Json.Reader
