import ClassRecovery.Proofs.Dump.Recognition
import ClassRecovery.Proofs.Text.Cut

/-!
# Statements on globals

A statement on a global is one line of the form `global.<text>;`. Every such line is classified as
an assignment or as a directive, in every scope, and no other line is; it is a directive exactly
when its text assigns nothing.
-/

set_option autoImplicit false

namespace ClassRecovery.Dump

open Text

/-- The line is `global.<text>;`, indented by a tab. -/
def IsGlobalText (text : List Char) (line : String) : Prop :=
  '\n' ∉ text ∧ line.toList = "\tglobal.".toList ++ text ++ [';']

/-- The line is a statement on a global. -/
def IsGlobalStatement (line : String) : Prop := ∃ text, IsGlobalText text line

/-- The line is a statement on a global that assigns nothing. -/
def IsGlobalDirective (line : String) : Prop :=
  ∃ text, IsGlobalText text line ∧ ¬ " = ".toList <:+: text

theorem IsGlobalDirective.isGlobalStatement {line : String} (h : IsGlobalDirective line) :
    IsGlobalStatement line := by
  obtain ⟨text, htext, -⟩ := h
  exact ⟨text, htext⟩

theorem globalStatement?_eq_some_iff {text : List Char} {line : String} :
    globalStatement? line.toList = some text ↔ IsGlobalText text line :=
  between?_onOneLine_eq_some_iff

theorem isSome_globalStatement?_iff {line : String} :
    (globalStatement? line.toList).isSome ↔ IsGlobalStatement line := by
  rw [Option.isSome_iff_exists]
  exact exists_congr fun _ => globalStatement?_eq_some_iff

instance : DecidablePred IsGlobalStatement := fun _ =>
  decidable_of_iff _ isSome_globalStatement?_iff

variable {scope : Scope} {line : String} {text : List Char}

/-- A statement on a global says something, so it is no boilerplate. -/
theorem boilerplate?_of_isGlobalText (h : IsGlobalText text line) :
    boilerplate? line.toList = none := by
  have hmetadata (rest : List Char) :
      ("\tss.setMetadata(".toList.isPrefixOf ("\tglobal.".toList ++ rest)) = false := rfl
  have hlines (rest : List Char) :
      boilerplateLines.any (·.toList == "\tglobal.".toList ++ rest) = false := rfl
  rw [h.2, List.append_assoc, boilerplate?, hlines, hmetadata]
  rfl

/-- A statement on a global with an equals sign is an assignment. -/
theorem classify_of_isGlobalText (h : IsGlobalText text line) :
    classify scope line
      = some (match splitLast? " = ".toList text with
        | some (target, value) =>
          .globalAssignment (String.ofList target) (String.ofList value)
        | none => .globalDirective) := by
  have hstatement := globalStatement?_eq_some_iff.mpr h
  have hassignment : globalAssignment? line.toList
      = (splitLast? " = ".toList text).map fun cut =>
          .globalAssignment (String.ofList cut.1) (String.ofList cut.2) := by
    unfold globalAssignment?
    rw [hstatement]
    simp only [Option.bind_eq_bind, Option.bind_some]
    cases splitLast? " = ".toList text <;> rfl
  have hdirective : globalDirective? line.toList = some .globalDirective := by
    rw [globalDirective?, hstatement]
    rfl
  unfold classify recognizers
  rw [List.findSome?_cons, boilerplate?_of_isGlobalText h, List.findSome?_cons, hassignment]
  cases splitLast? " = ".toList text with
  | some cut => rfl
  | none => simp only [Option.map_none, List.findSome?_cons, hdirective]

/-- The lines that are classified as statements on globals are those that are. -/
theorem isGlobalStatement_of_shape {shape : LineShape} (h : classify scope line = some shape)
    (hshape : shape = .globalDirective ∨ ∃ target value, shape = .globalAssignment target value) :
    IsGlobalStatement line := by
  have answer := recognizer_of_classify h
  apply isSome_globalStatement?_iff.mp
  rcases hshape with rfl | ⟨target, value, rfl⟩
  · simp only [LineShape.recognizer, globalDirective?, Option.map_eq_some_iff] at answer
    obtain ⟨text, htext, -⟩ := answer
    rw [htext]; rfl
  · simp only [LineShape.recognizer, globalAssignment?, Option.bind_eq_bind,
      Option.bind_eq_some_iff] at answer
    obtain ⟨text, htext, -⟩ := answer
    rw [htext]; rfl

/-- The shape of a statement on a global. -/
theorem shape_of_isGlobalStatement (h : IsGlobalStatement line) :
    classify scope line = some .globalDirective ∨
      ∃ target value, classify scope line = some (.globalAssignment target value) := by
  obtain ⟨text, htext⟩ := h
  rw [classify_of_isGlobalText htext]
  cases splitLast? " = ".toList text with
  | none => exact .inl rfl
  | some cut => exact .inr ⟨_, _, rfl⟩

/-- A line is classified as a directive exactly when it is a statement on a global that assigns
nothing. -/
theorem classify_eq_globalDirective_iff :
    classify scope line = some .globalDirective ↔ IsGlobalDirective line := by
  have hsep : " = ".toList ≠ [] := List.cons_ne_nil _ _
  constructor
  · intro h
    obtain ⟨text, htext⟩ := isGlobalStatement_of_shape h (.inl rfl)
    refine ⟨text, htext, (splitLast?_eq_none_iff hsep).mp ?_⟩
    rw [classify_of_isGlobalText htext] at h
    cases hcut : splitLast? " = ".toList text with
    | none => rfl
    | some cut => rw [hcut] at h; cases h
  · rintro ⟨text, htext, hnone⟩
    rw [classify_of_isGlobalText htext, (splitLast?_eq_none_iff hsep).mpr hnone]

end ClassRecovery.Dump
