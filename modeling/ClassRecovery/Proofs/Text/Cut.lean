import ClassRecovery.Proofs.Text.Substitute
import Mathlib.Data.List.Basic

/-!
# Cuts by concatenation

What the functions that cut a text answer, said by concatenation.
-/

set_option autoImplicit false

namespace ClassRecovery.Text

section Kinds

variable {α : Type*} {p : α → Bool} {w rest : List α} {c : α}

/-- What stands before the first element of another kind. -/
theorem takeWhile_append_cons (hw : ∀ d ∈ w, p d = true) (hc : p c = false) :
    (w ++ c :: rest).takeWhile p = w := by
  rw [List.takeWhile_append_of_pos hw, List.takeWhile_cons_of_neg (by simp [hc]), List.append_nil]

theorem dropWhile_append_cons (hw : ∀ d ∈ w, p d = true) (hc : p c = false) :
    (w ++ c :: rest).dropWhile p = c :: rest := by
  rw [List.dropWhile_append_of_pos hw, List.dropWhile_cons_of_neg (by simp [hc])]

/-- A run of one kind is read off a text in which an element of another kind ends it. -/
theorem append_cons_inj {w' rest' : List α} {c' : α} (hw : ∀ d ∈ w, p d = true) (hc : p c = false)
    (hw' : ∀ d ∈ w', p d = true) (hc' : p c' = false) :
    w ++ c :: rest = w' ++ c' :: rest' ↔ w = w' ∧ c = c' ∧ rest = rest' := by
  constructor
  · intro h
    have hrun : (w ++ c :: rest).takeWhile p = w := takeWhile_append_cons hw hc
    rw [h, takeWhile_append_cons hw' hc'] at hrun
    subst hrun
    rw [List.append_cancel_left_eq] at h
    exact ⟨rfl, List.cons.inj h⟩
  · rintro ⟨rfl, rfl, rfl⟩
    rfl

/-- So a run with the element that ends it begins a text only if it is the run the text begins
with. -/
theorem prefix_append_cons_iff {w' more : List α} {c' : α} (hw : ∀ d ∈ w, p d = true)
    (hc : p c = false) (hw' : ∀ d ∈ w', p d = true) (hc' : p c' = false) :
    w ++ c :: rest <+: w' ++ c' :: more ↔ w = w' ∧ c = c' ∧ rest <+: more := by
  constructor
  · rintro ⟨beyond, h⟩
    rw [List.append_assoc, List.cons_append, append_cons_inj hw hc hw' hc'] at h
    exact ⟨h.1, h.2.1, beyond, h.2.2⟩
  · rintro ⟨rfl, rfl, beyond, rfl⟩
    exact ⟨beyond, by rw [List.append_assoc, List.cons_append]⟩

end Kinds

section Ends

variable {α : Type*} {a b s : List α}

/-- Of two pieces neither of which begins the other, a text begins with one at most. -/
theorem not_prefix_of_front (ha : a <+: s) (hab : ¬ a <+: b ∧ ¬ b <+: a) : ¬ b <+: s := fun hb =>
  (List.prefix_or_prefix_of_prefix ha hb).elim hab.1 hab.2

/-- Of two pieces neither of which ends the other, a text ends with one at most. -/
theorem not_suffix_of_back (ha : a <:+ s) (hab : ¬ a <:+ b ∧ ¬ b <:+ a) : ¬ b <:+ s := fun hb =>
  (List.suffix_or_suffix_of_suffix ha hb).elim hab.1 hab.2

end Ends

theorem onOneLine_iff {s : List Char} : onOneLine s = true ↔ '\n' ∉ s := by
  simp [onOneLine]

/-- Front and back are taken off a text that is made of them and what is between. -/
theorem between?_eq_some_iff {front back s inner : List Char} :
    between? front back s = some inner ↔ s = front ++ inner ++ back := by
  simp only [between?, Option.bind_eq_some_iff, List.isPrefixOf?_eq_some_iff_append_eq,
    List.isSuffixOf?_eq_some_iff_append_eq]
  constructor
  · rintro ⟨rest, rfl, rfl⟩
    rw [List.append_assoc]
  · rintro rfl
    exact ⟨inner ++ back, by rw [List.append_assoc], rfl⟩

/-- On one line, too. -/
theorem between?_onOneLine_eq_some_iff {front back s inner : List Char} :
    (between? front back s).filter onOneLine = some inner ↔
      '\n' ∉ inner ∧ s = front ++ inner ++ back := by
  rw [Option.filter_eq_some_iff, between?_eq_some_iff, onOneLine_iff, and_comm]

theorem between?_eq_none_of_front {front back s : List Char} (h : ¬ front <+: s) :
    between? front back s = none := by
  rw [Option.eq_none_iff_forall_ne_some]
  intro inner hinner
  rw [between?_eq_some_iff] at hinner
  exact h ⟨inner ++ back, by rw [hinner, List.append_assoc]⟩

theorem between?_eq_none_of_back {front back s : List Char} (h : ¬ back <:+ s) :
    between? front back s = none := by
  rw [Option.eq_none_iff_forall_ne_some]
  intro inner hinner
  exact h ⟨front ++ inner, (between?_eq_some_iff.mp hinner).symm⟩

/-- A separator is recognized nowhere exactly when no part of the text up to its end begins with
one. -/
theorem splitLastBy?_eq_none_iff {after? : List Char → Option (List Char)} {s : List Char} :
    splitLastBy? after? s = none ↔ ∀ tail, tail <:+ s → tail ≠ [] → after? tail = none := by
  induction s with
  | nil =>
      simp only [splitLastBy?, true_iff]
      intro tail htail hne
      exact absurd (List.suffix_nil.mp htail) hne
  | cons c rest ih =>
      constructor
      · intro h tail htail hne
        simp only [splitLastBy?] at h
        cases hrest : splitLastBy? after? rest with
        | some cut =>
            rw [hrest] at h
            cases h
        | none =>
            rw [hrest] at h
            rcases List.suffix_cons_iff.mp htail with rfl | hsuffix
            · simpa using h
            · exact ih.mp hrest tail hsuffix hne
      · intro h
        have hrest : splitLastBy? after? rest = none :=
          ih.mpr fun tail htail hne => h tail (htail.trans (List.suffix_cons c rest)) hne
        have hhere := h (c :: rest) (List.suffix_refl _) (List.cons_ne_nil _ _)
        simp [splitLastBy?, hrest, hhere]

/-- What stands before a text does not change where the text is cut. -/
theorem splitLastBy?_append_of_some {after? : List Char → Option (List Char)}
    {s left right : List Char} (h : splitLastBy? after? s = some (left, right))
    (front : List Char) : splitLastBy? after? (front ++ s) = some (front ++ left, right) := by
  induction front with
  | nil => exact h
  | cons c front ih => rw [List.cons_append, splitLastBy?, ih, List.cons_append]

/-- A text that is cut nowhere behind its head is cut there, or nowhere. -/
theorem splitLastBy?_cons_of_none {after? : List Char → Option (List Char)} {s : List Char}
    {c : Char} (h : splitLastBy? after? s = none) :
    splitLastBy? after? (c :: s) = (after? (c :: s)).map fun right => ([], right) := by
  rw [splitLastBy?, h]

/-- A text is cut where a separator is recognized and none from the next place on. -/
theorem splitLastBy?_eq_some_iff {after? : List Char → Option (List Char)}
    {s left right : List Char} :
    splitLastBy? after? s = some (left, right) ↔
      ∃ c rest, s = left ++ c :: rest ∧ after? (c :: rest) = some right ∧
        splitLastBy? after? rest = none := by
  constructor
  · intro h
    induction s generalizing left with
    | nil => cases h
    | cons d s ih =>
        simp only [splitLastBy?] at h
        cases hcut : splitLastBy? after? s with
        | some cut =>
            rw [hcut] at h
            cases h
            obtain ⟨c, rest, rfl, hfound, hnone⟩ := ih hcut
            exact ⟨c, rest, rfl, hfound, hnone⟩
        | none =>
            rw [hcut] at h
            obtain ⟨after, hfound, heq⟩ := Option.map_eq_some_iff.mp h
            cases heq
            exact ⟨d, s, rfl, hfound, hcut⟩
  · rintro ⟨c, rest, rfl, hfound, hnone⟩
    have hhere : splitLastBy? after? (c :: rest) = some ([], right) := by
      rw [splitLastBy?_cons_of_none hnone, hfound]
      rfl
    have h := splitLastBy?_append_of_some hhere left
    rwa [List.append_nil] at h

/-- A text that is cut is made of the two parts and the separator between them. -/
theorem append_of_splitLast? {sep s left right : List Char}
    (h : splitLast? sep s = some (left, right)) : s = left ++ sep ++ right := by
  obtain ⟨c, rest, rfl, hfound, -⟩ := splitLastBy?_eq_some_iff.mp h
  rw [List.append_assoc, List.isPrefixOf?_eq_some_iff_append_eq.mp hfound]

/-- A text is not cut exactly when the separator does not occur in it. -/
theorem splitLast?_eq_none_iff {sep s : List Char} (hsep : sep ≠ []) :
    splitLast? sep s = none ↔ ¬ sep <:+: s := by
  rw [splitLast?, splitLastBy?_eq_none_iff]
  constructor
  · rintro h ⟨front, back, rfl⟩
    have hnone := h (sep ++ back) ⟨front, by rw [List.append_assoc]⟩ (by simp [hsep])
    rw [List.isPrefixOf?_eq_some_iff_append_eq.mpr rfl] at hnone
    cases hnone
  · intro h tail htail _
    cases hcut : sep.isPrefixOf? tail with
    | none => rfl
    | some back =>
        have happend := List.isPrefixOf?_eq_some_iff_append_eq.mp hcut
        have hwithin : sep <:+: tail := happend ▸ (List.prefix_append sep back).isInfix
        exact absurd (hwithin.trans htail.isInfix) h

/-! ## Cutting a concatenation -/

section Append

variable {after? : List Char → Option (List Char)} {s left right : List Char}

/-- A text before which no separator begins is cut where it was cut. -/
theorem splitLastBy?_append {piece : List Char}
    (h : ∀ tail, tail <:+ piece → tail ≠ [] → after? (tail ++ s) = none) :
    splitLastBy? after? (piece ++ s)
      = (splitLastBy? after? s).map fun cut => (piece ++ cut.1, cut.2) := by
  cases hs : splitLastBy? after? s with
  | some cut => exact splitLastBy?_append_of_some hs piece
  | none =>
      induction piece with
      | nil => exact hs
      | cons c piece ih =>
          have hlater := ih fun tail htail => h tail (htail.trans (List.suffix_cons c piece))
          have hhere := h (c :: piece) List.suffix_rfl (List.cons_ne_nil _ _)
          rw [List.cons_append] at hhere ⊢
          rw [splitLastBy?_cons_of_none hlater, hhere]
          rfl

/-- So it is if every separator has a beginning that is not seen in the piece. -/
theorem splitLastBy?_unseen {opening piece : List Char}
    (hopening : ∀ s, after? s ≠ none → opening <+: s) (hpiece : Unseen opening piece)
    (s : List Char) :
    splitLastBy? after? (piece ++ s)
      = (splitLastBy? after? s).map fun cut => (piece ++ cut.1, cut.2) := by
  refine splitLastBy?_append ?_
  rintro tail ⟨front, rfl⟩ hne
  by_contra hsome
  exact hpiece.right.not_begins hne s (hopening _ hsome)

/-- What stands behind a text does not change where the text is cut, if it is not cut itself and
hides no separator of the text. -/
theorem splitLastBy?_append_map {seen? : List Char → Option (List Char)} {tail : List Char}
    (htail : splitLastBy? after? tail = none)
    (h : ∀ piece, piece <:+ s → piece ≠ [] →
      after? (piece ++ tail) = (seen? piece).map (· ++ tail)) :
    splitLastBy? after? (s ++ tail)
      = (splitLastBy? seen? s).map fun cut => (cut.1, cut.2 ++ tail) := by
  induction s with
  | nil => exact htail
  | cons c s ih =>
      have hlater := ih fun piece hpiece => h piece (hpiece.trans (List.suffix_cons c s))
      have hhere := h (c :: s) List.suffix_rfl (List.cons_ne_nil _ _)
      rw [List.cons_append] at hhere ⊢
      rw [splitLastBy?, splitLastBy?, hlater, hhere]
      cases splitLastBy? seen? s with
      | some cut => rfl
      | none => cases seen? (c :: s) <;> rfl

/-- A piece whose first character is not in a text is not seen there. -/
theorem unseen_of_notMem {c : Char} {piece : List Char} (h : c ∉ s) : Unseen (c :: piece) s := by
  intro tail htail hne
  obtain ⟨d, more, rfl⟩ := List.exists_cons_of_ne_nil hne
  have hd : d ∈ s := ((List.mem_tails _ _).mp htail).subset List.mem_cons_self
  have hcd : c ≠ d := fun heq => h (heq ▸ hd)
  rw [List.cons_prefix_cons, List.cons_prefix_cons]
  exact ⟨fun hpre => hcd hpre.1, fun hpre => hcd hpre.1.symm⟩

/-- A piece that is not seen in the front of a text can only be behind it. -/
theorem infix_append_of_unseen {piece front x : List Char} (h : Unseen piece front) :
    piece <:+: front ++ x ↔ piece <:+: x := by
  induction front with
  | nil => rfl
  | cons c front ih =>
      have hhere : ¬ piece <+: c :: (front ++ x) := h.not_begins (List.cons_ne_nil c front) x
      rw [List.cons_append, List.infix_cons_iff]
      constructor
      · rintro (hpre | hlater)
        · exact absurd hpre hhere
        · exact (ih h.tail).mp hlater
      · intro hx
        exact .inr ((ih h.tail).mpr hx)

/-- A text is cut where no later separator begins, also none that begins within this one. -/
theorem splitLast?_eq_some_iff_overlap {c : Char} {sep : List Char} :
    splitLast? (c :: sep) s = some (left, right) ↔
      s = left ++ (c :: sep ++ right) ∧ ¬ (c :: sep) <:+: sep ++ right := by
  rw [splitLast?, splitLastBy?_eq_some_iff, ← splitLast?_eq_none_iff (List.cons_ne_nil c sep)]
  constructor
  · rintro ⟨d, rest, rfl, hfound, hnone⟩
    have happend := List.isPrefixOf?_eq_some_iff_append_eq.mp hfound
    obtain ⟨rfl, rfl⟩ := List.cons.inj happend
    exact ⟨rfl, hnone⟩
  · rintro ⟨rfl, hnone⟩
    exact ⟨c, sep ++ right, rfl, List.isPrefixOf?_eq_some_iff_append_eq.mpr rfl, hnone⟩

/-- The separator does not occur behind the cut. -/
theorem not_infix_of_splitLast? {sep : List Char} (hsep : sep ≠ [])
    (h : splitLast? sep s = some (left, right)) : ¬ sep <:+: right := by
  obtain ⟨c, sep, rfl⟩ := List.exists_cons_of_ne_nil hsep
  exact fun hright => (splitLast?_eq_some_iff_overlap.mp h).2
    (hright.trans (List.suffix_append sep right).isInfix)

/-- A text is cut at its last separator, if the separator cannot overlap itself. -/
theorem splitLast?_eq_some_iff {c : Char} {sep : List Char} (hsep : c ∉ sep) :
    splitLast? (c :: sep) s = some (left, right) ↔
      s = left ++ (c :: sep ++ right) ∧ ¬ (c :: sep) <:+: right := by
  rw [splitLast?_eq_some_iff_overlap, infix_append_of_unseen (unseen_of_notMem hsep)]

end Append

/-! ## Pieces between separators -/

section Pieces

variable {c : Char} {sep piece : List Char}

/-- Characters that are passed over are not looked at. -/
theorem splitOnFrom_skip (sep passed rest : List Char) :
    splitOnFrom sep passed.length (passed ++ rest) = splitOnFrom sep 0 rest := by
  induction passed with
  | nil => rfl
  | cons d passed ih => rw [List.length_cons, List.cons_append, splitOnFrom, ih]

/-- A text without the separator is one piece. -/
theorem splitOn_of_not_infix (h : ¬ (c :: sep) <:+: piece) : splitOn (c :: sep) piece = [piece] := by
  induction piece with
  | nil => rfl
  | cons d piece ih =>
      have hhere : ¬ (c :: sep).isPrefixOf (d :: piece) = true :=
        fun hbegins => h (List.isPrefixOf_iff_prefix.mp hbegins).isInfix
      have hlater := ih fun hwithin => h (hwithin.trans (List.suffix_cons d piece).isInfix)
      rw [splitOn] at hlater ⊢
      rw [splitOnFrom, if_neg hhere, hlater]

/-- A separator that cannot overlap itself begins nowhere in a piece without it. -/
theorem not_begins_of_not_infix (hsep : c ∉ sep) (hne : piece ≠ []) (h : ¬ (c :: sep) <:+: piece)
    (rest : List Char) : ¬ (c :: sep) <+: piece ++ (c :: sep ++ rest) := by
  rintro ⟨back, hback⟩
  rcases List.append_eq_append_iff.mp hback with ⟨more, rfl, -⟩ | ⟨more, hmore, hlater⟩
  · exact h (List.prefix_append _ _).isInfix
  · obtain ⟨d, piece, rfl⟩ := List.exists_cons_of_ne_nil hne
    cases more with
    | nil =>
        rw [List.append_nil] at hmore
        exact h (hmore ▸ List.infix_rfl)
    | cons e more =>
        -- the next separator would begin within this one
        obtain ⟨rfl, -⟩ := List.cons.inj hlater
        have hwithin : sep = piece ++ c :: more := (List.cons.inj hmore).2
        exact hsep (hwithin ▸ List.mem_append_right piece List.mem_cons_self)

/-- The piece before the first separator, and the pieces behind it. -/
theorem splitOn_append (hsep : c ∉ sep) (h : ¬ (c :: sep) <:+: piece) (rest : List Char) :
    splitOn (c :: sep) (piece ++ (c :: sep ++ rest)) = piece :: splitOn (c :: sep) rest := by
  induction piece with
  | nil =>
      have hfound : (c :: sep).isPrefixOf (c :: (sep ++ rest)) = true :=
        List.isPrefixOf_iff_prefix.mpr (List.prefix_append (c :: sep) rest)
      rw [List.nil_append, List.cons_append, splitOn, splitOnFrom, if_pos hfound,
        List.length_cons, Nat.add_sub_cancel, splitOnFrom_skip]
      rfl
  | cons d piece ih =>
      have hhere := not_begins_of_not_infix hsep (List.cons_ne_nil d piece) h rest
      rw [← List.isPrefixOf_iff_prefix, List.cons_append] at hhere
      have hlater := ih fun hwithin => h (hwithin.trans (List.suffix_cons d piece).isInfix)
      rw [splitOn] at hlater ⊢
      rw [List.cons_append, splitOnFrom, if_neg hhere, hlater]

/-- Pieces that are joined are found again, if the separator is in none and cannot overlap itself. -/
theorem splitOn_intercalate (hsep : c ∉ sep) {pieces : List (List Char)}
    (h : ∀ piece ∈ pieces, ¬ (c :: sep) <:+: piece) (hpieces : pieces ≠ []) :
    splitOn (c :: sep) ((c :: sep).intercalate pieces) = pieces := by
  induction pieces with
  | nil => exact absurd rfl hpieces
  | cons piece pieces ih =>
      rw [List.forall_mem_cons] at h
      rcases eq_or_ne pieces [] with rfl | hmore
      · rw [List.intercalate_singleton, splitOn_of_not_infix h.1]
      · rw [List.intercalate_cons_of_ne_nil hmore, List.append_assoc, splitOn_append hsep h.1,
          ih h.2 hmore]

/-- One more piece at the end. -/
theorem intercalate_concat {pieces : List (List Char)} (h : pieces ≠ []) (last : List Char) :
    sep.intercalate (pieces ++ [last]) = sep.intercalate pieces ++ sep ++ last := by
  induction pieces with
  | nil => exact absurd rfl h
  | cons first pieces ih =>
      rcases eq_or_ne pieces [] with rfl | hmore
      · rw [List.singleton_append, List.intercalate_cons_of_ne_nil (List.cons_ne_nil _ _),
          List.intercalate_singleton, List.intercalate_singleton]
      · have hconcat : pieces ++ [last] ≠ [] := List.append_ne_nil_of_left_ne_nil hmore [last]
        rw [List.cons_append, List.intercalate_cons_of_ne_nil hconcat, ih hmore,
          List.intercalate_cons_of_ne_nil hmore]
        simp only [List.append_assoc]

/-- Every text is made of pieces without the separator. -/
theorem exists_pieces (hsep : sep ≠ []) (s : List Char) :
    ∃ pieces, pieces ≠ [] ∧ (∀ piece ∈ pieces, ¬ sep <:+: piece) ∧ sep.intercalate pieces = s := by
  cases hcut : splitLast? sep s with
  | none =>
      refine ⟨[s], List.cons_ne_nil _ _, ?_, List.intercalate_singleton⟩
      rw [List.forall_mem_singleton]
      exact (splitLast?_eq_none_iff hsep).mp hcut
  | some cut =>
      -- the pieces up to the last separator, and what follows it
      obtain ⟨left, right⟩ := cut
      have hs : s = left ++ sep ++ right := append_of_splitLast? hcut
      have hshorter : left.length < s.length := by
        have hpos := List.length_pos_iff.mpr hsep
        simp only [hs, List.length_append]
        omega
      obtain ⟨pieces, hsome, hfree, hleft⟩ := exists_pieces hsep left
      refine ⟨pieces ++ [right], by simp, ?_, ?_⟩
      · rw [List.forall_mem_append, List.forall_mem_singleton]
        exact ⟨hfree, not_infix_of_splitLast? hsep hcut⟩
      · rw [intercalate_concat hsome, hleft, hs]
termination_by s.length

/-- A text is split in the only pieces without the separator that it can be joined from, if the
separator cannot overlap itself. -/
theorem splitOn_eq_iff (hsep : c ∉ sep) {s : List Char} {pieces : List (List Char)} :
    splitOn (c :: sep) s = pieces ↔
      pieces ≠ [] ∧ (∀ piece ∈ pieces, ¬ (c :: sep) <:+: piece) ∧
        (c :: sep).intercalate pieces = s := by
  constructor
  · rintro rfl
    obtain ⟨pieces, hsome, hfree, rfl⟩ := exists_pieces (List.cons_ne_nil c sep) s
    rw [splitOn_intercalate hsep hfree hsome]
    exact ⟨hsome, hfree, rfl⟩
  · rintro ⟨hsome, hfree, rfl⟩
    exact splitOn_intercalate hsep hfree hsome

end Pieces

end ClassRecovery.Text
