import ClassRecovery.Proofs.Text.Blank
import ClassRecovery.Text.Word
import Mathlib.Data.List.Basic

/-!
# Identifiers of the script

A nonempty run of ASCII letters, digits, `$` and `_`, as the generator writes names and variables.
-/

set_option autoImplicit false

namespace ClassRecovery.Dump

/-- An identifier of the script. -/
structure Identifier where
  text : String
  ne_nil : text.toList ≠ []
  all_isIdent : text.toList.all Text.isIdent = true

namespace Identifier

variable (x : Identifier)

theorem isIdent_of_mem : ∀ c ∈ x.text.toList, Text.isIdent c = true :=
  List.all_eq_true.mp x.all_isIdent

/-- A character of another kind is in no identifier. -/
theorem notMem {c : Char} (hc : Text.isIdent c = false) : c ∉ x.text.toList := by
  intro hmem
  rw [x.isIdent_of_mem c hmem] at hc
  cases hc

theorem isBlank_of_mem : ∀ c ∈ x.text.toList, Text.isBlank c = false := by
  intro c hc
  have hident := x.isIdent_of_mem c hc
  simp only [Text.isIdent, Bool.or_eq_true, beq_iff_eq] at hident
  rcases hident with (halphanum | rfl) | rfl
  · exact Text.isBlank_of_isAlphanum halphanum
  · decide
  · decide

end Identifier

end ClassRecovery.Dump
