import ClassRecovery.Text.Cut
import Mathlib.Data.List.Infix

/-!
# Replacement from left to right

`Rewritten rule before s t` says how leftmost replacement makes `t` of `s`, where `before` is the
character in front of `s`: each character at which the matcher recognizes nothing is copied, and each
piece that it recognizes is replaced by its image. What holds of a replacement is proved by induction
over this relation, without the characters that the recursion of `substituteFrom` passes over.
-/

set_option autoImplicit false

namespace ClassRecovery.Text

/-- The matcher takes at least one character, and only characters that are there. -/
def TakesSome (rule : Option Char → List Char → Option (Nat × List Char)) : Prop :=
  ∀ before s taken image, rule before s = some (taken, image) → 0 < taken ∧ taken ≤ s.length

/-- The text after leftmost replacement. -/
inductive Rewritten (rule : Option Char → List Char → Option (Nat × List Char)) :
    Option Char → List Char → List Char → Prop
  | nil {before : Option Char} : Rewritten rule before [] []
  | copied {before : Option Char} {c : Char} {rest out : List Char}
      (unmatched : rule before (c :: rest) = none) (later : Rewritten rule (some c) rest out) :
      Rewritten rule before (c :: rest) (c :: out)
  | replaced {before : Option Char} {taken rest image out : List Char}
      (matched : rule before (taken ++ rest) = some (taken.length, image))
      (later : Rewritten rule taken.getLast? rest out) :
      Rewritten rule before (taken ++ rest) (image ++ out)

variable {rule : Option Char → List Char → Option (Nat × List Char)} {before : Option Char}

theorem getLast?_cons_or (c : Char) (s : List Char) (before : Option Char) :
    (c :: s).getLast?.or before = s.getLast?.or (some c) := by
  rw [List.getLast?_cons]
  cases s.getLast? <;> rfl

/-- The characters of a match are passed over. -/
theorem substituteFrom_length_append (rule : Option Char → List Char → Option (Nat × List Char))
    (before : Option Char) (taken rest : List Char) :
    substituteFrom rule taken.length before (taken ++ rest)
      = substituteFrom rule 0 (taken.getLast?.or before) rest := by
  induction taken generalizing before with
  | nil => rfl
  | cons c taken ih =>
      rw [getLast?_cons_or]
      exact ih (some c)

/-- A piece that is recognized at the beginning of a text is replaced, and the replacement goes on
behind it. -/
theorem substituteFrom_append {taken rest image : List Char} (hne : taken ≠ [])
    (h : rule before (taken ++ rest) = some (taken.length, image)) :
    substituteFrom rule 0 before (taken ++ rest)
      = image ++ substituteFrom rule 0 taken.getLast? rest := by
  obtain ⟨c, beyond, rfl⟩ := List.exists_cons_of_ne_nil hne
  have hlast : beyond.getLast?.or (some c) = (c :: beyond).getLast? := by
    rw [← getLast?_cons_or c beyond none, Option.or_none]
  rw [List.cons_append, substituteFrom, ← List.cons_append, h, ← hlast,
    ← substituteFrom_length_append]
  rfl

theorem substituteFrom_rewritten (htakes : TakesSome rule) (before : Option Char) (s : List Char) :
    Rewritten rule before s (substituteFrom rule 0 before s) := by
  cases s with
  | nil => exact .nil
  | cons c rest =>
      cases hrule : rule before (c :: rest) with
      | none =>
          rw [substituteFrom, hrule]
          exact .copied hrule (substituteFrom_rewritten htakes (some c) rest)
      | some found =>
          obtain ⟨taken, image⟩ := found
          obtain ⟨hpos, hle⟩ := htakes before (c :: rest) taken image hrule
          have hsplit : (c :: rest).take taken ++ (c :: rest).drop taken = c :: rest :=
            List.take_append_drop _ _
          have hlength : ((c :: rest).take taken).length = taken := List.length_take_of_le hle
          have hne : (c :: rest).take taken ≠ [] := List.ne_nil_of_length_pos (by omega)
          have hmatched : rule before ((c :: rest).take taken ++ (c :: rest).drop taken)
              = some (((c :: rest).take taken).length, image) := by
            rw [hsplit, hlength, hrule]
          have hlater := substituteFrom_rewritten htakes ((c :: rest).take taken).getLast?
            ((c :: rest).drop taken)
          have h := Rewritten.replaced hmatched hlater
          rwa [← substituteFrom_append hne hmatched, hsplit] at h
termination_by s.length
decreasing_by
  · simp
  · simp only [List.length_drop, List.length_cons]
    omega

/-- A replacement copies what is not recognized and replaces what is. -/
theorem substitute_rewritten (htakes : TakesSome rule) (s : List Char) :
    Rewritten rule none s (substitute rule s) :=
  substituteFrom_rewritten htakes none s

/-- A text stays as it is if nothing is recognized at any place of it. -/
theorem Rewritten.eq_self {s t : List Char} (h : Rewritten rule before s t)
    (hnone : ∀ front back, s = front ++ back → rule (front.getLast?.or before) back = none) :
    t = s := by
  induction h with
  | nil => rfl
  | @copied before c rest out _ _ ih =>
      refine congrArg (c :: ·) (ih fun front back hrest => ?_)
      rw [← getLast?_cons_or c front before]
      exact hnone (c :: front) back (by rw [hrest, List.cons_append])
  | @replaced before taken rest image out matched _ _ =>
      have hunmatched := hnone [] (taken ++ rest) rfl
      rw [List.getLast?_nil, Option.none_or, matched] at hunmatched
      cases hunmatched

/-! ## Matchers that do not look back -/

/-- What is recognized does not depend on the character in front of it. -/
def Blind (rule : Option Char → List Char → Option (Nat × List Char)) : Prop :=
  ∀ before before' s, rule before s = rule before' s

theorem substituteFrom_blind (hblind : Blind rule) (skip : Nat) (before before' : Option Char)
    (s : List Char) : substituteFrom rule skip before s = substituteFrom rule skip before' s := by
  cases s with
  | nil => rfl
  | cons c rest =>
      cases skip with
      | zero => rw [substituteFrom, substituteFrom, hblind before before']
      | succ skip => rfl

/-- A character at which nothing is recognized is copied. -/
theorem substitute_cons (hblind : Blind rule) {c : Char} {rest : List Char}
    (h : rule none (c :: rest) = none) : substitute rule (c :: rest) = c :: substitute rule rest := by
  rw [substitute, substituteFrom, h, substituteFrom_blind hblind _ _ none]
  rfl

/-- A piece that is recognized is replaced, and the replacement goes on behind it. -/
theorem substitute_append (hblind : Blind rule) {taken rest image : List Char} (hne : taken ≠ [])
    (h : rule none (taken ++ rest) = some (taken.length, image)) :
    substitute rule (taken ++ rest) = image ++ substitute rule rest := by
  rw [substitute, substituteFrom_append hne h, substituteFrom_blind hblind _ _ none]
  rfl

/-- A piece in which nothing is recognized is copied. -/
theorem substitute_append_of_none (hblind : Blind rule) {piece rest : List Char}
    (h : ∀ tail, tail <:+ piece → tail ≠ [] → rule none (tail ++ rest) = none) :
    substitute rule (piece ++ rest) = piece ++ substitute rule rest := by
  induction piece with
  | nil => rfl
  | cons c piece ih =>
      have hhere := h (c :: piece) (List.suffix_refl _) (List.cons_ne_nil _ _)
      have hlater := ih fun tail htail => h tail (htail.trans (List.suffix_cons c piece))
      rw [List.cons_append] at hhere ⊢
      rw [substitute_cons hblind hhere, hlater, List.cons_append]

/-! ## Pieces that are not seen -/

/-- The piece is not seen in the text: from no place of it on do the two agree as far as the shorter
of them goes. -/
def Unseen (piece s : List Char) : Prop :=
  ∀ tail ∈ s.tails, tail ≠ [] → ¬ piece <+: tail ∧ ¬ tail <+: piece

instance (piece s : List Char) : Decidable (Unseen piece s) :=
  inferInstanceAs (Decidable (∀ tail ∈ s.tails, tail ≠ [] → ¬ piece <+: tail ∧ ¬ tail <+: piece))

namespace Unseen

variable {piece s t : List Char}

theorem right (h : Unseen piece (s ++ t)) : Unseen piece t := fun tail htail =>
  h tail ((List.mem_tails _ _).mpr
    (((List.mem_tails _ _).mp htail).trans (List.suffix_append s t)))

theorem tail {c : Char} (h : Unseen piece (c :: s)) : Unseen piece s := h.right (s := [c])

/-- However the text goes on, it does not begin with the piece. -/
theorem not_begins (h : Unseen piece s) (hne : s ≠ []) (t : List Char) : ¬ piece <+: s ++ t := by
  intro hpiece
  obtain ⟨hnot, hnot'⟩ := h s ((List.mem_tails _ _).mpr List.suffix_rfl) hne
  rcases List.prefix_or_prefix_of_prefix hpiece (List.prefix_append s t) with hpre | hpre
  · exact hnot hpre
  · exact hnot' hpre

/-- However the piece goes on, it does not begin with the text, unless there is no text. -/
theorem eq_nil (h : Unseen piece s) (hs : s <+: piece ++ t) : s = [] := by
  by_contra hne
  obtain ⟨more, hmore⟩ := hs
  exact h.not_begins hne more (hmore ▸ List.prefix_append piece t)

/-- What goes on from the piece is not seen either. -/
theorem longer (h : Unseen piece s) {longer : List Char} (hpiece : piece <+: longer) :
    Unseen longer s := by
  intro tail htail hne
  obtain ⟨hnot, hnot'⟩ := h tail htail hne
  refine ⟨fun hlonger => hnot (hpiece.trans hlonger), fun hpre => ?_⟩
  rcases List.prefix_or_prefix_of_prefix hpre hpiece with h | h
  · exact hnot' h
  · exact hnot h

end Unseen

/-- A piece at the head of a text is at the head of another one that begins with the same character,
if what it goes on with is. -/
theorem prefix_cons_of_later {piece s t : List Char} {c : Char} (h : piece <+: c :: t)
    (hlater : ∀ later, piece = c :: later → later <+: t → later <+: s) : piece <+: c :: s := by
  cases piece with
  | nil => exact List.nil_prefix
  | cons d later =>
      rw [List.cons_prefix_cons] at h ⊢
      exact ⟨h.1, hlater later (by rw [h.1]) h.2⟩

/-- What a replaced text begins with it has begun with before, if no image is seen in it. -/
theorem Rewritten.begins {s t piece : List Char} (h : Rewritten rule before s t)
    (himage : ∀ before s taken image, rule before s = some (taken, image) → Unseen image piece)
    (ht : piece <+: t) : piece <+: s := by
  induction h generalizing piece with
  | nil => exact ht
  | copied _ _ ih =>
      refine prefix_cons_of_later ht fun later hpiece hlater => ih ?_ hlater
      subst hpiece
      exact fun before s taken image hmatch => (himage before s taken image hmatch).tail
  | replaced matched _ _ =>
      rw [(himage _ _ _ _ matched).eq_nil ht]
      exact List.nil_prefix

end ClassRecovery.Text
