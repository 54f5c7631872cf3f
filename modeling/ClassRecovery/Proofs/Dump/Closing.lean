import ClassRecovery.Dump.Terminator
import ClassRecovery.Proofs.Text.Cut
import Mathlib.Data.List.TakeWhile

/-!
# Where a construct ends

A construct ends at the first line that closes it. `cutAtClosing?_eq_some_iff` says so by
concatenation; hence lines that follow a closed construct do not change how it is cut, and a
construct takes no more lines than there are.
-/

set_option autoImplicit false

namespace ClassRecovery.Dump

open Text

/-- The lines before the first one that closes a construct. -/
def linesBefore (closes : String → Bool) (lines : List String) : List String :=
  lines.takeWhile fun line => !closes line

/-- The lines up to the first one that closes a construct. -/
def linesThrough (closes : String → Bool) (lines : List String) : List String :=
  linesBefore closes lines ++ (lines.find? closes).toList

variable {closes : String → Bool} {lines body : List String} {closing : String}

/-- The cut is at the first line that closes: no line before it does. -/
theorem cutAtClosing?_eq_some_iff :
    cutAtClosing? closes lines = some (body, closing) ↔
      ∃ after, lines = body ++ closing :: after ∧ (∀ line ∈ body, closes line = false) ∧
        closes closing = true := by
  constructor
  · intro h
    unfold cutAtClosing? at h
    cases hdrop : lines.dropWhile (fun line => !closes line) with
    | nil =>
        rw [hdrop] at h
        cases h
    | cons last after =>
        rw [hdrop] at h
        obtain ⟨rfl, rfl⟩ : lines.takeWhile (fun line => !closes line) = body ∧ last = closing := by
          simpa using h
        refine ⟨after, ?_, ?_, ?_⟩
        · rw [← hdrop, List.takeWhile_append_dropWhile]
        · intro line hline
          have hall : (lines.takeWhile fun line => !closes line).all (fun line => !closes line)
              = true := List.all_takeWhile
          simpa using List.all_eq_true.mp hall line hline
        · have hhead := List.head?_dropWhile_not (fun line => !closes line) lines
          simpa [hdrop] using hhead
  · rintro ⟨after, rfl, hbody, hclosing⟩
    have hpass : ∀ line ∈ body, (!closes line) = true := fun line hline => by
      simp [hbody line hline]
    have hstop : (!closes closing) = false := by simp [hclosing]
    have hdrop : (body ++ closing :: after).dropWhile (fun line => !closes line)
        = closing :: after := dropWhile_append_cons hpass hstop
    have htake : (body ++ closing :: after).takeWhile (fun line => !closes line) = body :=
      takeWhile_append_cons hpass hstop
    simp [cutAtClosing?, hdrop, htake]

/-- Lines after a closed construct do not change its cut. -/
theorem cutAtClosing?_append {cut : List String × String}
    (h : cutAtClosing? closes lines = some cut) (more : List String) :
    cutAtClosing? closes (lines ++ more) = some cut := by
  obtain ⟨body, closing⟩ := cut
  obtain ⟨after, rfl, hbody, hclosing⟩ := cutAtClosing?_eq_some_iff.mp h
  exact cutAtClosing?_eq_some_iff.mpr ⟨after ++ more, by simp, hbody, hclosing⟩

/-- A construct takes no more lines than there are. -/
theorem length_lt_of_cutAtClosing? (h : cutAtClosing? closes lines = some (body, closing)) :
    body.length < lines.length := by
  obtain ⟨after, rfl, -, -⟩ := cutAtClosing?_eq_some_iff.mp h
  simp

theorem linesBefore_of_cut (h : cutAtClosing? closes lines = some (body, closing)) :
    linesBefore closes lines = body := by
  unfold cutAtClosing? at h
  split at h
  · cases h
  · cases h; rfl

/-- The closing line of a cut is the first one that closes. -/
theorem find?_of_cut (h : cutAtClosing? closes lines = some (body, closing)) :
    lines.find? closes = some closing := by
  obtain ⟨after, hlines, hbody, hclosing⟩ := cutAtClosing?_eq_some_iff.mp h
  rw [hlines, List.find?_append, List.find?_eq_none.mpr (by simpa using hbody)]
  simp [hclosing]

theorem linesThrough_of_cut (h : cutAtClosing? closes lines = some (body, closing)) :
    linesThrough closes lines = body ++ [closing] := by
  rw [linesThrough, linesBefore_of_cut h, find?_of_cut h]
  rfl

/-- A construct can be cut where one of the lines closes it. -/
theorem exists_cut (h : ∃ closing ∈ lines, closes closing = true) :
    ∃ body closing, cutAtClosing? closes lines = some (body, closing) := by
  unfold cutAtClosing?
  cases hdrop : lines.dropWhile (fun line => !closes line) with
  | nil =>
      obtain ⟨closing, hmem, hcloses⟩ := h
      have hopen := List.dropWhile_eq_nil_iff.mp hdrop closing hmem
      rw [hcloses] at hopen
      cases hopen
  | cons closing after => exact ⟨_, _, rfl⟩

/-- The cut of a construct succeeds when the construct is closed. -/
theorem cutAtClosing_eq_ok_iff {terminator : String} {index : Nat} {cut : List String × String} :
    cutAtClosing closes terminator index lines = .ok cut ↔
      cutAtClosing? closes lines = some cut := by
  unfold cutAtClosing
  cases cutAtClosing? closes lines <;> simp

/-- It fails, with the place of the construct, when no line closes it. -/
theorem cutAtClosing_eq_error_iff {terminator : String} {index : Nat} {failure : Error} :
    cutAtClosing closes terminator index lines = .error failure ↔
      failure = .unterminatedAt index terminator ∧ ∀ line ∈ lines, closes line = false := by
  unfold cutAtClosing
  cases hcut : cutAtClosing? closes lines with
  | some cut =>
      obtain ⟨after, rfl, -, hclosing⟩ := cutAtClosing?_eq_some_iff.mp hcut
      refine iff_of_false nofun fun h => ?_
      have hopen := h.2 cut.2 (by simp)
      rw [hclosing] at hopen
      cases hopen
  | none =>
      have hopen : ∀ line ∈ lines, closes line = false := by
        intro line hline
        by_contra hcloses
        obtain ⟨body, closing, hsome⟩ := exists_cut ⟨line, hline, by simpa using hcloses⟩
        rw [hcut] at hsome
        cases hsome
      simp only [Except.error.injEq]
      exact ⟨fun h => ⟨h.symm, hopen⟩, fun h => h.1.symm⟩

/-! ## The place of the closing line -/

/-- The first closing line stands behind the lines that are cut off before it. -/
theorem findIdx?_eq_map_cutAtClosing? (closes : String → Bool) (lines : List String) :
    lines.findIdx? closes = (cutAtClosing? closes lines).map fun cut => cut.1.length := by
  cases hcut : cutAtClosing? closes lines with
  | some cut =>
      obtain ⟨body, closing⟩ := cut
      obtain ⟨after, rfl, hbody, hclosing⟩ := cutAtClosing?_eq_some_iff.mp hcut
      rw [List.findIdx?_append, List.findIdx?_eq_none_iff.mpr hbody, Option.none_or,
        List.findIdx?_cons, if_pos hclosing, Option.map_some, Nat.zero_add, Option.map_some]
  | none =>
      rw [Option.map_none, List.findIdx?_eq_none_iff]
      intro line hline
      by_contra hcloses
      obtain ⟨body, closing, hsome⟩ := exists_cut ⟨line, hline, by simpa using hcloses⟩
      rw [hcut] at hsome
      cases hsome

section Place

variable {terminator : String} {openedAt : UInt64} {start : Nat}

/-- The place of a closing line is found where the lines before it can be cut off. -/
theorem findClosing_eq_ok_iff {place : Nat} :
    findClosing closes terminator openedAt start lines = .ok place ↔
      ∃ cut, cutAtClosing? closes (lines.drop start) = some cut ∧ start + cut.1.length = place := by
  unfold findClosing
  rw [findIdx?_eq_map_cutAtClosing?]
  cases cutAtClosing? closes (lines.drop start) <;> simp

/-- If the place of the opening line is not the last word, the failures are the same, too. -/
theorem findClosing_eq_map (h : openedAt.toNat + 1 < UInt64.size) :
    findClosing closes terminator openedAt start lines
      = (cutAtClosing closes terminator openedAt.toNat (lines.drop start)).map
          fun cut => start + cut.1.length := by
  have hnext : (openedAt + 1).toNat = openedAt.toNat + 1 := by
    rw [UInt64.toNat_add]
    exact Nat.mod_eq_of_lt h
  unfold findClosing cutAtClosing
  rw [findIdx?_eq_map_cutAtClosing?, hnext]
  cases cutAtClosing? closes (lines.drop start) <;> rfl

end Place

end ClassRecovery.Dump
