import ClassRecovery.Text.LetterCase

/-!
# Lowering a letter before the text

A text whose first letter has been lowered has the lower-case form that it had before
(`lowercase_lowercaseChar_append`). For this the lowered letter must not be moved again. But a
capital sigma further on looks back at it, so it must also be cased and looked through exactly if the
letter was.

These are facts about the tables. The tables are compared all at once, as sets of code points that
are the bits of a number.
-/

set_option autoImplicit false

namespace ClassRecovery.Text

/-! ## Sets of code points as bits -/

/-- The number whose bits are these code points. -/
def bitsOf (codes : List Nat) : Nat := codes.foldr (fun code bits => bits ||| 1 <<< code) 0

theorem testBit_bitsOf (codes : List Nat) (n : Nat) :
    (bitsOf codes).testBit n = decide (n ∈ codes) := by
  induction codes with
  | nil => simp [bitsOf]
  | cons code codes ih =>
      show (bitsOf codes ||| 1 <<< code).testBit n = _
      rw [Nat.testBit_or, ih, Nat.one_shiftLeft, Nat.testBit_two_pow]
      simp [eq_comm, Bool.or_comm]

namespace CodeRanges

/-- The number whose bits are the code points in the ranges. -/
def bits (ranges : CodeRanges) : Nat :=
  ranges.foldr (fun range bits => bits ||| (1 <<< (range.2 + 1 - range.1) - 1) <<< range.1) 0

theorem testBit_bits (ranges : CodeRanges) (n : Nat) : ranges.bits.testBit n = ranges.has n := by
  induction ranges with
  | nil => simp [bits, has]
  | cons range ranges ih =>
      show (bits ranges ||| (1 <<< (range.2 + 1 - range.1) - 1) <<< range.1).testBit n = _
      rw [Nat.testBit_or, ih, Nat.testBit_shiftLeft, Nat.one_shiftLeft, Nat.testBit_two_pow_sub_one]
      have hrange : (decide (n ≥ range.1) && decide (n - range.1 < range.2 + 1 - range.1))
          = (decide (range.1 ≤ n) && decide (n ≤ range.2)) := by
        rw [Bool.eq_iff_iff]
        simp only [Bool.and_eq_true, decide_eq_true_eq]
        omega
      rw [hrange, Bool.or_comm]
      rfl

end CodeRanges

/-- The bits of a number that are all bits of another one. -/
theorem testBit_of_and_eq {a b n : Nat} (h : a &&& b = a) (hn : a.testBit n = true) :
    b.testBit n = true := by
  rw [← h, Nat.testBit_and, Bool.and_eq_true] at hn
  exact hn.2

/-- Numbers without a common bit. -/
theorem testBit_eq_false_of_and_eq_zero {a b n : Nat} (h : a &&& b = 0)
    (hn : a.testBit n = true) : b.testBit n = false := by
  have hnone : (a &&& b).testBit n = false := by rw [h, Nat.zero_testBit]
  rwa [Nat.testBit_and, hn, Bool.true_and] at hnone

/-! ## The tables -/

/-- How far the code points of a row are from the first one. -/
def rowOffsets (first last step : Nat) : List Nat :=
  (List.range (last + 1 - first)).filter fun offset => offset % step == 0

/-- The code points that the table moves. -/
def loweredCodes : List Nat :=
  lowercaseRows.flatMap fun (first, last, step, _) => (rowOffsets first last step).map (first + ·)

/-- The code points outside ASCII to which the table moves others. -/
def lowerCodes : List Nat :=
  (lowercaseRows.filter fun (_, _, _, image) => 0x80 ≤ image).flatMap
    fun (first, last, step, image) => (rowOffsets first last step).map (image + ·)

/-- The sign of the Kelvin alone is moved into ASCII, to `k`. -/
theorem image_of_mem_lowercaseRows : ∀ row ∈ lowercaseRows,
    0x80 ≤ row.2.2.2 ∨ row = (0x212A, 0x212A, 2, 0x6B) := by
  decide +kernel

theorem lowerCodes_valid : ∀ code ∈ lowerCodes,
    code.isValidChar ∧ 0x80 ≤ code ∧ code ≠ 0x130 := by
  decide +kernel

/-- Both sides of the table are cased, and case looks through neither. -/
theorem bitsOf_letters :
    bitsOf (loweredCodes ++ lowerCodes) &&& casedRanges.bits = bitsOf (loweredCodes ++ lowerCodes) ∧
      bitsOf (loweredCodes ++ lowerCodes) &&& caseIgnorableRanges.bits = 0 := by
  decide +kernel

/-- The table moves no code point twice. -/
theorem bitsOf_lowerCodes : bitsOf lowerCodes &&& bitsOf loweredCodes = 0 := by
  decide +kernel

theorem casing_of_mem {code : Nat} (h : code ∈ loweredCodes ++ lowerCodes) :
    casedRanges.has code = true ∧ caseIgnorableRanges.has code = false := by
  have hbit : (bitsOf (loweredCodes ++ lowerCodes)).testBit code = true := by
    rw [testBit_bitsOf, decide_eq_true h]
  rw [← CodeRanges.testBit_bits, ← CodeRanges.testBit_bits]
  exact ⟨testBit_of_and_eq bitsOf_letters.1 hbit, testBit_eq_false_of_and_eq_zero bitsOf_letters.2 hbit⟩

theorem notMem_loweredCodes {code : Nat} (h : code ∈ lowerCodes) : code ∉ loweredCodes := by
  have hbit : (bitsOf lowerCodes).testBit code = true := by rw [testBit_bitsOf, decide_eq_true h]
  have hnone := testBit_eq_false_of_and_eq_zero bitsOf_lowerCodes hbit
  rw [testBit_bitsOf] at hnone
  exact of_decide_eq_false hnone

/-- What the table says of a code point. -/
theorem mem_codes_of_lowercaseRow? {code low : Nat} (h : lowercaseRow? code = some low) :
    code ∈ loweredCodes ∧ (low ∈ lowerCodes ∨ low = 0x6B) := by
  obtain ⟨⟨first, last, step, image⟩, hrow, rfl⟩ := Option.map_eq_some_iff.mp h
  have hmem := List.mem_of_find?_eq_some hrow
  have htest := List.find?_some hrow
  simp only [Bool.and_eq_true, decide_eq_true_eq, beq_iff_eq] at htest
  obtain ⟨⟨hfirst, hlast⟩, hstep⟩ := htest
  have hoffset : code - first ∈ rowOffsets first last step := by
    rw [rowOffsets, List.mem_filter, List.mem_range, beq_iff_eq]
    exact ⟨by omega, hstep⟩
  constructor
  · have hcode : first + (code - first) = code := by omega
    exact List.mem_flatMap.mpr ⟨_, hmem, List.mem_map.mpr ⟨_, hoffset, hcode⟩⟩
  · rcases image_of_mem_lowercaseRows _ hmem with himage | hkelvin
    · left
      have hrow : (first, last, step, image) ∈ lowercaseRows.filter (0x80 ≤ ·.2.2.2) :=
        List.mem_filter.mpr ⟨hmem, decide_eq_true himage⟩
      exact List.mem_flatMap.mpr ⟨_, hrow, List.mem_map_of_mem hoffset⟩
    · right
      cases hkelvin
      dsimp only at hlast hfirst ⊢
      omega

/-! ## One character -/

/-- The second character is the lower-case form of the first one: lower-casing does not move it
again, and for a sigma after it it counts like the first one. -/
structure Lowers (c d : Char) : Prop where
  image : lowercaseChar c = [d]
  settled : lowercaseChar d = [d]
  isCased : isCased d = isCased c
  isCaseIgnorable : isCaseIgnorable d = isCaseIgnorable c

theorem ascii_lowers : ∀ n < 0x80,
    lowercaseChar (Char.ofNat n).toLower = [(Char.ofNat n).toLower] ∧
      isCased (Char.ofNat n).toLower = isCased (Char.ofNat n) ∧
      isCaseIgnorable (Char.ofNat n).toLower = isCaseIgnorable (Char.ofNat n) := by
  decide +kernel

variable {c : Char}

theorem isCased_of_isAscii_eq_false (h : isAscii c = false) :
    isCased c = casedRanges.has c.toNat := by
  rw [isCased, h, if_neg Bool.false_ne_true]

theorem isCaseIgnorable_of_isAscii_eq_false (h : isAscii c = false) :
    isCaseIgnorable c = caseIgnorableRanges.has c.toNat := by
  rw [isCaseIgnorable, h, if_neg Bool.false_ne_true]

theorem lowers_of_ascii (h : isAscii c = true) : Lowers c c.toLower := by
  have hn : c.toNat < 0x80 := by simpa [isAscii] using h
  obtain ⟨hsettled, hcased, hignorable⟩ := ascii_lowers c.toNat hn
  rw [Char.ofNat_toNat] at hsettled hcased hignorable
  exact ⟨by simp [lowercaseChar, h], hsettled, hcased, hignorable⟩

theorem lowers_of_row {low : Nat} (h : isAscii c = false) (hdot : c ≠ 'İ')
    (hrow : lowercaseRow? c.toNat = some low) : Lowers c (Char.ofNat low) := by
  obtain ⟨hmem, hlow⟩ := mem_codes_of_lowercaseRow? hrow
  obtain ⟨hcased, hignorable⟩ := casing_of_mem (List.mem_append_left lowerCodes hmem)
  have himage : lowercaseChar c = [Char.ofNat low] := by simp [lowercaseChar, h, hdot, hrow]
  have hc : isCased c = true := (isCased_of_isAscii_eq_false h).trans hcased
  have hi : isCaseIgnorable c = false := (isCaseIgnorable_of_isAscii_eq_false h).trans hignorable
  rcases hlow with hlow | rfl
  · obtain ⟨hcased', hignorable'⟩ := casing_of_mem (List.mem_append_right loweredCodes hlow)
    obtain ⟨hvalid, hlarge, hne⟩ := lowerCodes_valid low hlow
    have hcode : (Char.ofNat low).toNat = low := by rw [Char.ofNat, dif_pos hvalid]; rfl
    have hd : isAscii (Char.ofNat low) = false := by simp [isAscii, hcode]; omega
    have hdot' : Char.ofNat low ≠ 'İ' := by
      intro heq
      rw [heq] at hcode
      exact hne hcode.symm
    have hnone : lowercaseRow? low = none := by
      cases hagain : lowercaseRow? low with
      | none => rfl
      | some again => exact absurd (mem_codes_of_lowercaseRow? hagain).1 (notMem_loweredCodes hlow)
    refine ⟨himage, ?_, ?_, ?_⟩
    · simp [lowercaseChar, hd, hdot', hcode, hnone]
    · rw [isCased_of_isAscii_eq_false hd, hcode, hcased', hc]
    · rw [isCaseIgnorable_of_isAscii_eq_false hd, hcode, hignorable', hi]
  · exact ⟨himage, by decide +kernel, by rw [hc]; decide +kernel, by rw [hi]; decide +kernel⟩

/-- Every character but `İ` has a lower-case form of one character. -/
theorem exists_lowers (hdot : c ≠ 'İ') : ∃ d, Lowers c d := by
  cases hascii : isAscii c with
  | true => exact ⟨_, lowers_of_ascii hascii⟩
  | false =>
      cases hrow : lowercaseRow? c.toNat with
      | some low => exact ⟨_, lowers_of_row hascii hdot hrow⟩
      | none =>
          have himage : lowercaseChar c = [c] := by simp [lowercaseChar, hascii, hdot, hrow]
          exact ⟨c, himage, himage, rfl, rfl⟩

/-! ## The first character of a text -/

/-- The first character of a text is lowered on its own, be it a sigma. -/
theorem lowercase_cons (c : Char) (rest : List Char) :
    lowercase (c :: rest)
      = lowercaseChar c ++ lowercaseFrom (!isCaseIgnorable c && isCased c) rest := by
  have hafter : (if isCaseIgnorable c then false else isCased c)
      = (!isCaseIgnorable c && isCased c) := by
    cases isCaseIgnorable c <;> rfl
  have hsigma : lowercaseChar 'Σ' = ['σ'] := by decide +kernel
  rw [lowercase, lowercaseFrom, hafter, Bool.false_and, if_neg Bool.false_ne_true]
  by_cases hc : c = 'Σ'
  · rw [if_pos hc, hc, hsigma]
  · rw [if_neg hc]

/-- **Lowering the first letter of a text does not change its lower-case form.** -/
theorem lowercase_lowercaseChar_append (c : Char) (rest : List Char) :
    lowercase (lowercaseChar c ++ rest) = lowercase (c :: rest) := by
  by_cases hdot : c = 'İ'
  · -- the only letter that becomes two characters, the second of which case looks through
    subst hdot
    have himage : lowercaseChar 'İ' = ['i', '\u0307'] := by decide +kernel
    have hi : lowercaseChar 'i' = ['i'] := by decide +kernel
    have hmark : lowercaseChar '\u0307' = ['\u0307'] := by decide +kernel
    have hignorable : isCaseIgnorable '\u0307' = true := by decide +kernel
    have hcased : (!isCaseIgnorable 'i' && isCased 'i') = true := by decide +kernel
    have hcased' : (!isCaseIgnorable 'İ' && isCased 'İ') = true := by decide +kernel
    calc lowercase (lowercaseChar 'İ' ++ rest)
        = lowercaseChar 'i' ++ lowercaseFrom true ('\u0307' :: rest) := by
          rw [himage, List.cons_append, lowercase_cons, hcased]
          rfl
      _ = ['i'] ++ (['\u0307'] ++ lowercaseFrom true rest) := by
          rw [lowercaseFrom, if_neg (by decide), hmark, if_pos hignorable, hi]
      _ = lowercase ('İ' :: rest) := by
          rw [lowercase_cons, himage, hcased']
          rfl
  · obtain ⟨d, hd⟩ := exists_lowers hdot
    rw [hd.image, List.singleton_append, lowercase_cons, lowercase_cons, hd.image, hd.settled,
      hd.isCased, hd.isCaseIgnorable]

/-! ## Characters without case -/

theorem isAscii_ofNat_of_mem_lowerCodes {code : Nat} (h : code ∈ lowerCodes) :
    isAscii (Char.ofNat code) = false := by
  obtain ⟨hvalid, hlarge, -⟩ := lowerCodes_valid code h
  have hcode : (Char.ofNat code).toNat = code := by rw [Char.ofNat, dif_pos hvalid]; rfl
  rw [isAscii, hcode, decide_eq_false_iff_not]
  omega

/-- Nothing but letters is lowered to another character of ASCII, and that is a letter. -/
theorem eq_of_mem_lowercaseChar {d : Char} (hascii : isAscii c = true) (hletter : c.isAlpha = false)
    (h : c ∈ lowercaseChar d) : c = d := by
  by_cases hd : isAscii d = true
  · have hn : d.toNat < 0x80 := by simpa [isAscii] using hd
    have hlower : ∀ n < 0x80, (Char.ofNat n).toLower.isAlpha = false →
        (Char.ofNat n).toLower = Char.ofNat n := by decide +kernel
    have hc : c = d.toLower := by simpa [lowercaseChar, hd] using h
    have hsame := hlower d.toNat hn
    rw [Char.ofNat_toNat, ← hc] at hsame
    exact hsame hletter
  · by_cases hdot : d = 'İ'
    · subst hdot
      have himage : (lowercaseChar 'İ').all (fun c => !isAscii c || c.isAlpha) = true := by
        decide +kernel
      have hc := List.all_eq_true.mp himage c h
      rw [hascii, hletter] at hc
      cases hc
    · have hc : c = ((lowercaseRow? d.toNat).map Char.ofNat).getD d := by
        simpa [lowercaseChar, hd, hdot] using h
      cases hrow : lowercaseRow? d.toNat with
      | none => simpa [hrow] using hc
      | some low =>
          have hlow : c = Char.ofNat low := by simpa [hrow] using hc
          rcases (mem_codes_of_lowercaseRow? hrow).2 with hmem | rfl
          · rw [hlow, isAscii_ofNat_of_mem_lowerCodes hmem] at hascii
            cases hascii
          · rw [hlow] at hletter
            exact absurd hletter (by decide)

theorem mem_of_mem_lowercaseFrom (hascii : isAscii c = true) (hletter : c.isAlpha = false)
    {s : List Char} {afterCased : Bool} (h : c ∈ lowercaseFrom afterCased s) : c ∈ s := by
  have hsigma : isAscii 'ς' = false ∧ isAscii 'σ' = false := by decide
  induction s generalizing afterCased with
  | nil => exact h
  | cons d rest ih =>
      rw [lowercaseFrom, List.mem_append] at h
      rcases h with hhere | hlater
      · split at hhere
        · -- both forms of the sigma are outside ASCII
          split at hhere <;> rw [List.mem_singleton.mp hhere] at hascii <;> simp_all
        · exact eq_of_mem_lowercaseChar hascii hletter hhere ▸ List.mem_cons_self
      · exact List.mem_cons_of_mem d (ih hlater)

/-- A character of ASCII that is no letter is in the lower-case form of a text only if it is in the
text. -/
theorem mem_of_mem_lowercase (hascii : isAscii c = true) (hletter : c.isAlpha = false)
    {s : List Char} (h : c ∈ lowercase s) : c ∈ s :=
  mem_of_mem_lowercaseFrom hascii hletter h

/-- A character that has no case and that case does not look through. -/
def IsCaseBarrier (c : Char) : Prop := isCased c = false ∧ isCaseIgnorable c = false

theorem casedAhead_append_barrier (hc : IsCaseBarrier c) (s rest : List Char) :
    casedAhead (s ++ c :: rest) = casedAhead s := by
  induction s with
  | nil => simp [casedAhead, hc.1, hc.2]
  | cons d s ih =>
      unfold casedAhead at ih ⊢
      cases hd : isCaseIgnorable d with
      | true => simpa [hd] using ih
      | false => simp [hd]

theorem lowercaseFrom_append_barrier (hc : IsCaseBarrier c) (afterCased : Bool)
    (s rest : List Char) :
    lowercaseFrom afterCased (s ++ c :: rest)
      = lowercaseFrom afterCased s ++ lowercase (c :: rest) := by
  have hsigma : isCased 'Σ' = true := by decide +kernel
  have hne : c ≠ 'Σ' := by
    rintro rfl
    rw [hc.1] at hsigma
    cases hsigma
  induction s generalizing afterCased with
  | nil =>
      rw [List.nil_append, lowercase_cons, lowercaseFrom, lowercaseFrom, if_neg hne, hc.1, hc.2]
      rfl
  | cons d s ih =>
      rw [List.cons_append, lowercaseFrom, lowercaseFrom, casedAhead_append_barrier hc, ih,
        List.append_assoc]

/-- **What stands behind a character without case does not change how a text is lowered.** -/
theorem lowercase_append_barrier (hc : IsCaseBarrier c) (s rest : List Char) :
    lowercase (s ++ c :: rest) = lowercase s ++ lowercase (c :: rest) :=
  lowercaseFrom_append_barrier hc false s rest

end ClassRecovery.Text
