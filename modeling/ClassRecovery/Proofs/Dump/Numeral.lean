import ClassRecovery.Dump.Recognition
import ClassRecovery.Proofs.Text.Blank

/-!
# Numerals of 32 bits

`positive32?` reads exactly the decimal numerals without leading zeros of the positive numbers of 32
bits, each as its number (`positive32?_eq_some_iff`).
-/

set_option autoImplicit false

namespace ClassRecovery.Dump

theorem decimalValue_eq (digits : List Char) : decimalValue digits = Nat.ofDigitChars 10 digits 0 :=
  Nat.ofDigitChars_eq_foldl.symm

theorem toNat_sub_lt_of_isDigit {c : Char} (h : c.isDigit = true) : c.toNat - '0'.toNat < 10 := by
  have hcode := Text.toNat_of_isDigit h
  have hzero : '0'.toNat = 48 := rfl
  omega

/-- A digit is written as its own numeral. -/
theorem toDigits_of_isDigit {c : Char} (h : c.isDigit = true) :
    Nat.toDigits 10 (c.toNat - '0'.toNat) = [c] := by
  have hlt := toNat_sub_lt_of_isDigit h
  have hcode := Text.toNat_of_isDigit h
  have hchar : (c.toNat - '0'.toNat).digitChar = c := by
    rw [← Char.toNat_inj, Nat.toNat_digitChar_of_lt_ten hlt]
    have hzero : '0'.toNat = 48 := rfl
    omega
  rw [Nat.toDigits_of_lt_base hlt, hchar]

/-- Digits that follow a numeral go on with it. -/
theorem toDigits_append {digits : List Char} (h : ∀ c ∈ digits, c.isDigit = true) {number : Nat}
    (hnumber : 0 < number) :
    Nat.toDigits 10 number ++ digits = Nat.toDigits 10 (Nat.ofDigitChars 10 digits number) := by
  induction digits generalizing number with
  | nil => exact List.append_nil _
  | cons c digits ih =>
      rw [List.forall_mem_cons] at h
      have hlonger : Nat.toDigits 10 number ++ [c]
          = Nat.toDigits 10 (10 * number + (c.toNat - '0'.toNat)) := by
        rw [← toDigits_of_isDigit h.1]
        exact Nat.toDigits_append_toDigits (by decide) hnumber (toNat_sub_lt_of_isDigit h.1)
      rw [Nat.ofDigitChars_cons, ← ih h.2 (by omega), ← hlonger, List.append_assoc]
      rfl

/-- Digits of which the first is not zero are the numeral of their value. -/
theorem toDigits_decimalValue {c : Char} {digits : List Char}
    (h : ∀ d ∈ c :: digits, d.isDigit = true) (hc : c ≠ '0') :
    Nat.toDigits 10 (decimalValue (c :: digits)) = c :: digits := by
  rw [List.forall_mem_cons] at h
  have hpos : 0 < c.toNat - '0'.toNat := by
    have hcode := Text.toNat_of_isDigit h.1
    have hne : c.toNat ≠ '0'.toNat := fun heq => hc (Char.toNat_inj.mp heq)
    have hzero : '0'.toNat = 48 := rfl
    omega
  rw [decimalValue_eq, Nat.ofDigitChars_cons, Nat.mul_zero, Nat.zero_add, ← toDigits_append h.2 hpos,
    toDigits_of_isDigit h.1]
  rfl

/-- The numeral of a positive number does not begin with zero. -/
theorem head?_toDigits {number : Nat} (h : 0 < number) :
    (Nat.toDigits 10 number).head? ≠ some '0' := by
  induction number using Nat.strongRecOn with
  | ind number ih =>
      by_cases hlt : number < 10
      · rw [Nat.toDigits_of_lt_base hlt, List.head?_cons, ne_eq, Option.some_inj,
          Nat.digitChar_eq_zero]
        omega
      · rw [Nat.toDigits_of_base_le (by decide) (by omega),
          List.head?_append_of_ne_nil _ Nat.toDigits_ne_nil]
        exact ih (number / 10) (by omega) (by omega)

/-- A text is read as a positive number of 32 bits exactly when it is its numeral. -/
theorem positive32?_eq_some_iff {s : List Char} {number : UInt32} :
    positive32? s = some number ↔ 0 < number ∧ s = (toString number.toNat).toList := by
  have hnumeral (n : Nat) : (toString n).toList = Nat.toDigits 10 n := Nat.toList_repr
  have hpositive : 0 < number ↔ 0 < number.toNat := UInt32.lt_iff_toNat_lt
  rw [hnumeral, hpositive]
  constructor
  · intro h
    simp only [positive32?, Option.ite_none_right_eq_some, Bool.and_eq_true, decide_eq_true_eq,
      Option.some_inj] at h
    obtain ⟨⟨⟨hdigits, hhead⟩, hsize⟩, rfl⟩ := h
    have hvalue : (decimalValue s).toUInt32.toNat = decimalValue s :=
      UInt32.toNat_ofNat_of_lt' hsize
    cases s with
    | nil => cases hhead
    | cons c digits =>
        have hc : c ≠ '0' := by simpa using hhead
        have hwritten := toDigits_decimalValue (List.all_eq_true.mp hdigits) hc
        rw [hvalue, hwritten]
        refine ⟨Nat.pos_of_ne_zero fun hzero => hc ?_, rfl⟩
        -- zero is written as a zero
        rw [hzero, Nat.toDigits_zero] at hwritten
        exact (List.cons.inj hwritten).1.symm
  · rintro ⟨hpos, rfl⟩
    have hvalue : decimalValue (Nat.toDigits 10 number.toNat) = number.toNat := by
      rw [decimalValue_eq, Nat.ofDigitChars_ten_toDigits]
    have hdigits : (Nat.toDigits 10 number.toNat).all Char.isDigit = true :=
      List.all_eq_true.mpr fun c hc => Nat.isDigit_of_mem_toDigits (by decide) (by decide) hc
    have hhead : (Nat.toDigits 10 number.toNat).head?.any (· != '0') = true := by
      obtain ⟨c, digits, hcons⟩ := List.exists_cons_of_ne_nil
        (Nat.toDigits_ne_nil (n := number.toNat) (b := 10))
      have hne := head?_toDigits hpos
      rw [hcons, List.head?_cons] at hne ⊢
      simpa using hne
    have hsize : number.toNat < UInt32.size := number.toNat_lt
    simp only [positive32?, hvalue, hdigits, hhead, hsize, decide_true, Bool.and_self, if_true,
      Option.some_inj]
    exact UInt32.ofNat_toNat

end ClassRecovery.Dump
