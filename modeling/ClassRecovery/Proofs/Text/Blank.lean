import ClassRecovery.Text.Blank
import Mathlib.Data.List.Basic
import Mathlib.Data.List.TakeWhile

/-!
# Trimming

A text without white space at its ends is its own trimmed text, and trimming any other one takes
some white space away.
-/

set_option autoImplicit false

namespace ClassRecovery.Text

/-- What is left behind the characters of a kind does not begin with one of them. -/
theorem head?_dropWhile (p : Char → Bool) (s : List Char) : (s.dropWhile p).head?.any p = false := by
  have hhead := List.head?_dropWhile_not p s
  cases hfirst : (s.dropWhile p).head? with
  | none => rfl
  | some c => rwa [hfirst] at hhead

theorem dropWhile_isBlank {s : List Char} (h : s.head?.any isBlank = false) :
    s.dropWhile isBlank = s := by
  cases s with
  | nil => rfl
  | cons c rest =>
      have hc : isBlank c = false := h
      exact List.dropWhile_cons_of_neg (by simp [hc])

/-- A text with white space at neither end is its own trimmed text. -/
theorem trim_eq_self {s : List Char} (hhead : s.head?.any isBlank = false)
    (hlast : s.getLast?.any isBlank = false) : trim s = s := by
  have hreverse : s.reverse.head?.any isBlank = false := by rwa [List.head?_reverse]
  rw [trim, dropWhile_isBlank hhead, trimRight, dropWhile_isBlank hreverse,
    List.reverse_reverse]

/-- A nonempty text with white space at neither end. -/
structure IsTrimmed (s : List Char) : Prop where
  ne_nil : s ≠ []
  head?_isBlank : s.head?.any isBlank = false
  getLast?_isBlank : s.getLast?.any isBlank = false

namespace IsTrimmed

variable {s t : List Char}

theorem trim_eq (h : IsTrimmed s) : trim s = s := trim_eq_self h.head?_isBlank h.getLast?_isBlank

theorem of_forall (hne : s ≠ []) (h : ∀ c ∈ s, isBlank c = false) : IsTrimmed s where
  ne_nil := hne
  head?_isBlank := by
    cases hfirst : s.head? with
    | none => rfl
    | some c => exact h c (List.mem_of_head? hfirst)
  getLast?_isBlank := by
    cases hend : s.getLast? with
    | none => rfl
    | some c => exact h c (List.mem_of_getLast? hend)

/-- What stands between two such texts does not matter. -/
theorem append (hs : IsTrimmed s) (ht : IsTrimmed t) (between : List Char) :
    IsTrimmed (s ++ (between ++ t)) where
  ne_nil := List.append_ne_nil_of_left_ne_nil hs.ne_nil _
  head?_isBlank := by
    rw [List.head?_append_of_ne_nil _ hs.ne_nil]
    exact hs.head?_isBlank
  getLast?_isBlank := by
    rw [← List.append_assoc, List.getLast?_append_of_ne_nil _ ht.ne_nil]
    exact ht.getLast?_isBlank

end IsTrimmed

theorem trimmed_of_no_blank {s : String} (h : ∀ c ∈ s.toList, isBlank c = false) :
    trimmed s = s := by
  have htrim : trim s.toList = s.toList := by
    rcases eq_or_ne s.toList [] with hnil | hne
    · rw [hnil]
      rfl
    · exact (IsTrimmed.of_forall hne h).trim_eq
  rw [trimmed, htrim, String.ofList_toList]

/-- A trimmed text does not end with white space. -/
theorem getLast?_trim (s : List Char) : (trim s).getLast?.any isBlank = false := by
  rw [trim, trimRight, List.getLast?_reverse]
  exact head?_dropWhile isBlank _

theorem trimRight_sublist (s : List Char) : (trimRight s).Sublist s := by
  have h := (List.dropWhile_sublist isBlank (l := s.reverse)).reverse
  rwa [List.reverse_reverse] at h

theorem trim_sublist (s : List Char) : (trim s).Sublist s :=
  (trimRight_sublist _).trans (List.dropWhile_sublist isBlank)

/-- Trimming takes away the white space that a text begins with. -/
theorem countP_trim_lt {s : List Char} (h : s.head?.any isBlank = true) :
    (trim s).countP isBlank < s.countP isBlank := by
  cases s with
  | nil => cases h
  | cons c rest =>
      have hc : isBlank c = true := h
      have hdropped : (c :: rest).dropWhile isBlank = rest.dropWhile isBlank :=
        List.dropWhile_cons_of_pos hc
      have hsub : (trim (c :: rest)).Sublist rest := by
        rw [trim, hdropped]
        exact (trimRight_sublist _).trans (List.dropWhile_sublist isBlank)
      have hle := hsub.countP_le (p := isBlank)
      rw [List.countP_cons_of_pos hc]
      omega

/-- White space around a text is trimmed with the rest. -/
theorem trim_around {before after : List Char} (hbefore : ∀ c ∈ before, isBlank c = true)
    (hafter : ∀ c ∈ after, isBlank c = true) (s : List Char) :
    trim (before ++ (s ++ after)) = trim s := by
  have hright (t : List Char) : trimRight (t ++ after) = trimRight t := by
    have hreverse : ∀ c ∈ after.reverse, isBlank c = true :=
      fun c hc => hafter c (List.mem_reverse.mp hc)
    rw [trimRight, List.reverse_append, List.dropWhile_append_of_pos hreverse]
    rfl
  rw [trim, List.dropWhile_append_of_pos hbefore, List.dropWhile_append]
  by_cases hempty : (s.dropWhile isBlank).isEmpty = true
  · -- nothing but white space
    have hnone : after.dropWhile isBlank = [] := List.dropWhile_eq_nil_iff.mpr hafter
    rw [if_pos hempty, trim, List.isEmpty_iff.mp hempty, hnone]
  · rw [if_neg hempty]
    exact hright _

/-- The code points of digits. -/
theorem toNat_of_isDigit {c : Char} (h : c.isDigit = true) : 48 ≤ c.toNat ∧ c.toNat ≤ 57 :=
  (Bool.and_eq_true_iff.mp h).imp of_decide_eq_true of_decide_eq_true

/-- The code points of ASCII letters and digits. -/
theorem toNat_of_isAlphanum {c : Char} (h : c.isAlphanum = true) :
    48 ≤ c.toNat ∧ c.toNat ≤ 122 := by
  rcases Bool.or_eq_true_iff.mp h with hletter | hdigit
  · rcases Bool.or_eq_true_iff.mp hletter with hupper | hlower
    · have hcode : 65 ≤ c.toNat ∧ c.toNat ≤ 90 := of_decide_eq_true hupper
      omega
    · have hcode : 97 ≤ c.toNat ∧ c.toNat ≤ 122 :=
        (Bool.and_eq_true_iff.mp hlower).imp of_decide_eq_true of_decide_eq_true
      omega
  · have hcode := toNat_of_isDigit hdigit
    omega

theorem isBlank_of_isAlphanum {c : Char} (h : c.isAlphanum = true) : isBlank c = false := by
  have hcode := toNat_of_isAlphanum h
  simp only [isBlank, Bool.or_eq_false_iff, Bool.and_eq_false_iff, decide_eq_false_iff_not,
    beq_eq_false_iff_ne]
  omega

end ClassRecovery.Text
