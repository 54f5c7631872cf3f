import ClassRecovery.Names
import ClassRecovery.Proofs.Text.LetterCase

/-!
# A documented property under its name in the script

The name that a documented property gets in the script denotes it, and so does every name that
differs from this one in the case of letters only (`denotesProperty_of_lowercase_eq`), whether or not
a digit at the end is admitted.
-/

set_option autoImplicit false

namespace ClassRecovery.Names

open Text

theorem lowercase_marker_cons (s : List Char) : lowercase (marker :: s) = marker :: lowercase s := by
  have himage : lowercaseChar marker = [marker] := by decide +kernel
  have hcased : (!isCaseIgnorable marker && isCased marker) = false := by decide +kernel
  rw [lowercase_cons, himage, hcased]
  rfl

theorem lowercase_lowerFirst (s : List Char) : lowercase (lowerFirst s) = lowercase s := by
  cases s with
  | nil => rfl
  | cons first rest => exact lowercase_lowercaseChar_append first rest

/-- But for the case of letters, the name in the script is the documented name or the documented name
with the marker. -/
theorem lowercase_structuralName (doc : List Char) :
    lowercase (structuralName doc) = lowercase doc ∨
      lowercase (structuralName doc) = marker :: lowercase doc := by
  unfold structuralName
  split
  · exact .inl (lowercase_lowerFirst doc)
  · exact .inr (lowercase_marker_cons doc)

theorem denotesProperty_of_lowercase_eq {structural doc : List Char}
    (h : lowercase structural = lowercase (structuralName doc)) (takesRest : Bool) :
    denotesProperty takesRest structural doc = true := by
  unfold denotesProperty sameIgnoringCase
  rcases lowercase_structuralName doc with hname | hname
  · have hsame : (lowercase structural == lowercase doc) = true := beq_iff_eq.mpr (h.trans hname)
    simp only [hsame, Bool.true_or]
  · have hmarked : (lowercase structural == marker :: lowercase doc) = true :=
      beq_iff_eq.mpr (h.trans hname)
    simp only [hmarked, Bool.or_true, Bool.true_or]

end ClassRecovery.Names
