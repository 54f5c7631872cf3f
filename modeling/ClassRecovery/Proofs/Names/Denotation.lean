import ClassRecovery.Proofs.Names
import ClassRecovery.Proofs.Text.Cut
import Mathlib.Data.List.TakeWhile

/-!
# Documented names read back

A name of the script may denote many documented names, but they differ in the case of their letters
only. For however a documented name without marker is mangled, it stands between the markers of the
name in the script (`Surrounds`), and is read back from there in lower case (`stem`).

A digit at the end of a rest parameter is not set off by a marker: `args1` denotes `args` as well as
`args1`, so rest parameters are left out here.
-/

set_option autoImplicit false

namespace ClassRecovery.Names

open Text

/-- What stands behind the markers that a name begins with and before the next one, in lower
case. -/
def stem (structural : List Char) : List Char :=
  ((lowercase structural).dropWhile (· == marker)).takeWhile (· != marker)

/-- In lower case, the name in the script is the documented one, maybe with markers before it, and
behind it with nothing or with what another marker sets off. -/
def Surrounds (structural doc : List Char) : Prop :=
  ∃ marks suffix, (∀ c ∈ marks, c = marker) ∧ (suffix = [] ∨ ∃ more, suffix = marker :: more) ∧
    lowercase structural = marks ++ (lowercase doc ++ suffix)

variable {structural doc : List Char}

theorem isCaseBarrier_marker : IsCaseBarrier marker := by
  unfold IsCaseBarrier
  decide +kernel

theorem marker_notMem_lowercase (h : marker ∉ doc) : marker ∉ lowercase doc :=
  mt (mem_of_mem_lowercase (by decide) (by decide)) h

theorem lowercase_ne_nil (h : doc ≠ []) : lowercase doc ≠ [] := by
  obtain ⟨c, rest, rfl⟩ := List.exists_cons_of_ne_nil h
  have himage : lowercaseChar c ≠ [] := by
    unfold lowercaseChar
    split
    · exact List.cons_ne_nil _ _
    · split <;> exact List.cons_ne_nil _ _
  rw [lowercase_cons]
  exact List.append_ne_nil_of_left_ne_nil himage _

/-! ## Reading back -/

/-- A documented name without marker is read back from every name in which it stands between
markers. -/
theorem Surrounds.stem_eq (h : Surrounds structural doc) (hne : doc ≠ []) (hdoc : marker ∉ doc) :
    stem structural = lowercase doc := by
  obtain ⟨marks, suffix, hmarks, hsuffix, hlower⟩ := h
  have hletters : ∀ c ∈ lowercase doc, (c != marker) = true := by
    intro c hc
    rw [bne_iff_ne]
    rintro rfl
    exact marker_notMem_lowercase hdoc hc
  have hdropped : (lowercase structural).dropWhile (· == marker) = lowercase doc ++ suffix := by
    obtain ⟨first, more, hfirst⟩ := List.exists_cons_of_ne_nil (lowercase_ne_nil hne)
    have hstart : (first == marker) = false := by
      simpa using hletters first (hfirst ▸ List.mem_cons_self)
    rw [hlower, hfirst, List.cons_append]
    exact dropWhile_append_cons (fun c hc => beq_iff_eq.mpr (hmarks c hc)) hstart
  rw [stem, hdropped]
  rcases hsuffix with rfl | ⟨more, rfl⟩
  · rw [List.append_nil, List.takeWhile_eq_self_iff]
    exact hletters
  · exact takeWhile_append_cons hletters (by simp)

/-! ## Rules of mangling -/

theorem surrounds_of_same (h : sameIgnoringCase structural doc = true) :
    Surrounds structural doc := by
  refine ⟨[], [], by simp, .inl rfl, ?_⟩
  rw [List.nil_append, List.append_nil]
  exact beq_iff_eq.mp h

theorem surrounds_of_marked (h : lowercase structural = marker :: lowercase doc) :
    Surrounds structural doc := by
  refine ⟨[marker], [], by simp, .inl rfl, ?_⟩
  rw [h, List.append_nil]
  rfl

theorem surrounds_mangled (doc : List Char) : Surrounds (mangled doc) doc := by
  apply surrounds_of_marked
  rw [mangled, lowercase_marker_cons, lowercase_lowerFirst]

/-- The first letter of an overload is lowered before the marker of its number is added. -/
theorem surrounds_of_overload (h : (mangled doc ++ [marker]).isPrefixOf structural = true) :
    Surrounds structural doc := by
  obtain ⟨number, rfl⟩ := List.isPrefixOf_iff_prefix.mp h
  refine ⟨[marker], marker :: lowercase number, by simp, .inr ⟨_, rfl⟩, ?_⟩
  rw [mangled, List.append_assoc, List.cons_append, List.singleton_append, lowercase_marker_cons,
    lowercase_append_barrier isCaseBarrier_marker, lowercase_lowerFirst, lowercase_marker_cons]
  rfl

theorem exists_digit_of_hasNumberedSuffix {suffix : List Char}
    (h : hasNumberedSuffix structural doc suffix = true) :
    ∃ digit, (lowercase doc ++ suffix).isPrefixOf? (lowercase structural) = some [digit] := by
  unfold hasNumberedSuffix at h
  match hrest : (lowercase doc ++ suffix).isPrefixOf? (lowercase structural) with
  | some [digit] => exact ⟨digit, rfl⟩
  | none | some [] | some (_ :: _ :: _) =>
      rw [hrest] at h
      cases h

theorem surrounds_of_numbered (h : hasNumberedSuffix structural doc [marker] = true) :
    Surrounds structural doc := by
  obtain ⟨digit, hdigit⟩ := exists_digit_of_hasNumberedSuffix h
  refine ⟨[], [marker, digit], by simp, .inr ⟨_, rfl⟩, ?_⟩
  rw [← List.isPrefixOf?_eq_some_iff_append_eq.mp hdigit, List.append_assoc]
  rfl

/-- Whatever rule makes a method denote a documented name, the name stands between markers. -/
theorem surrounds_of_denotesMethod (hne : doc ≠ []) (h : denotesMethod structural doc = true) :
    Surrounds structural doc := by
  have hnonempty : doc.isEmpty = false := by simpa using hne
  rw [denotesMethod, hnonempty, if_neg Bool.false_ne_true] at h
  simp only [Bool.or_eq_true] at h
  rcases h with ((hsame | hmangled) | hoverload) | hnumbered
  · exact surrounds_of_same hsame
  · exact beq_iff_eq.mp hmangled ▸ surrounds_mangled doc
  · exact surrounds_of_overload hoverload
  · exact surrounds_of_numbered hnumbered

/-- So it does for a property, but for the digit of a rest parameter. A documented name without
marker is not itself mangled. -/
theorem surrounds_of_denotesProperty (hdoc : marker ∉ doc)
    (h : denotesProperty false structural doc = true) : Surrounds structural doc := by
  simp only [denotesProperty, Bool.or_eq_true, Bool.and_eq_true, Bool.false_and, Bool.false_eq_true,
    or_false, beq_iff_eq] at h
  rcases h with (((hsame | ⟨-, hmangled⟩) | ⟨-, hdocMangled⟩) | hmarked) | hdocMarked
  · exact surrounds_of_same hsame
  · exact hmangled ▸ surrounds_mangled doc
  · exact absurd (hdocMangled ▸ List.mem_cons_self) hdoc
  · exact surrounds_of_marked hmarked
  · exact absurd (hdocMarked ▸ List.mem_cons_self) (marker_notMem_lowercase hdoc)

/-! ## Names denoted alike -/

/-- **Two documented names are never confused.** Documented names without marker that one method
denotes, or one property that is no rest parameter, agree but for the case of their letters. -/
theorem lowercase_eq_of_denoted {doc₁ doc₂ : String} (hne₁ : doc₁ ≠ "") (hne₂ : doc₂ ≠ "")
    (hdoc₁ : marker ∉ doc₁.toList) (hdoc₂ : marker ∉ doc₂.toList) :
    (∀ m : Method, matchesMethod m doc₁ = true → matchesMethod m doc₂ = true →
      lowercase doc₁.toList = lowercase doc₂.toList) ∧
    (∀ p : Property, p.takesRest = false → matchesProperty p doc₁ = true →
      matchesProperty p doc₂ = true → lowercase doc₁.toList = lowercase doc₂.toList) := by
  have hnil₁ : doc₁.toList ≠ [] := mt String.toList_eq_nil_iff.mp hne₁
  have hnil₂ : doc₂.toList ≠ [] := mt String.toList_eq_nil_iff.mp hne₂
  constructor
  · intro m h₁ h₂
    have hstem₁ := (surrounds_of_denotesMethod hnil₁ h₁).stem_eq hnil₁ hdoc₁
    have hstem₂ := (surrounds_of_denotesMethod hnil₂ h₂).stem_eq hnil₂ hdoc₂
    exact hstem₁.symm.trans hstem₂
  · intro p hrest h₁ h₂
    rw [matchesProperty, hrest] at h₁ h₂
    have hstem₁ := (surrounds_of_denotesProperty hdoc₁ h₁).stem_eq hnil₁ hdoc₁
    have hstem₂ := (surrounds_of_denotesProperty hdoc₂ h₂).stem_eq hnil₂ hdoc₂
    exact hstem₁.symm.trans hstem₂

/-- An overload and a property in two cases each. -/
theorem lowercase_eq_of_denoted_of_capitals :
    (matchesMethod { name := "run$2", params := [] } "Run" = true ∧
      matchesMethod { name := "run$2", params := [] } "RUN" = true ∧
      lowercase "Run".toList = lowercase "RUN".toList) ∧
    (matchesProperty { name := "$count" } "Count" = true ∧
      matchesProperty { name := "$count" } "COUNT" = true ∧
      lowercase "Count".toList = lowercase "COUNT".toList) := by
  have hrun : matchesMethod { name := "run$2", params := [] } "Run" = true := by decide +kernel
  have hrun' : matchesMethod { name := "run$2", params := [] } "RUN" = true := by decide +kernel
  have hcount : matchesProperty { name := "$count" } "Count" = true := by decide +kernel
  have hcount' : matchesProperty { name := "$count" } "COUNT" = true := by decide +kernel
  have hmethods := (@lowercase_eq_of_denoted "Run" "RUN" (by decide) (by decide) (by decide)
    (by decide)).1
  have hproperties := (@lowercase_eq_of_denoted "Count" "COUNT" (by decide) (by decide) (by decide)
    (by decide)).2
  exact ⟨⟨hrun, hrun', hmethods _ hrun hrun'⟩,
    ⟨hcount, hcount', hproperties _ rfl hcount hcount'⟩⟩

end ClassRecovery.Names
