import ClassRecovery.Proofs.Text.Cut
import ClassRecovery.Proofs.TypeText.Leftovers

/-!
# Normalizing a normalized type text

A text that is marked as possibly absent is normalized to itself. Any other normalized text is a
mapped text that is complete, and it is normalized to itself unless it begins with white space, which
the modifiers before it can leave, or has something left that would be mapped
(`normalizeChars_eq_self_iff`). The main result says when that is so by the text before the mapping.
-/

set_option autoImplicit false

namespace ClassRecovery.TypeText

open Text

variable {s t : List Char}

/-! ## Modifiers -/

theorem dropModifiersFrom_suffix (skip : Nat) (s : List Char) : dropModifiersFrom skip s <:+ s := by
  induction s generalizing skip with
  | nil => cases skip <;> exact List.suffix_rfl
  | cons c rest ih =>
      cases skip with
      | zero =>
          rw [dropModifiersFrom]
          split
          · exact (ih _).trans (List.suffix_cons c rest)
          · exact List.suffix_rfl
      | succ skip => exact (ih skip).trans (List.suffix_cons c rest)

theorem dropModifiers_suffix (s : List Char) : dropModifiers s <:+ s := dropModifiersFrom_suffix 0 s

/-- No modifier is left at the head of a text. -/
theorem modifier_not_begins_dropModifiersFrom (skip : Nat) (s : List Char) :
    ∀ word ∈ modifiers, ¬ word.toList <+: dropModifiersFrom skip s := by
  have hne : ∀ word ∈ modifiers, ¬ word.toList <+: [] := by decide
  induction s generalizing skip with
  | nil => cases skip <;> exact hne
  | cons c rest ih =>
      cases skip with
      | zero =>
          rw [dropModifiersFrom]
          cases hfind : modifiers.find? fun word => word.toList.isPrefixOf (c :: rest) with
          | some word => exact ih _
          | none =>
              intro word hword hpre
              have hnot := List.find?_eq_none.mp hfind word hword
              exact hnot (List.isPrefixOf_iff_prefix.mpr hpre)
      | succ skip => exact ih skip

theorem dropModifiers_eq_self (h : ∀ word ∈ modifiers, ¬ word.toList <+: s) :
    dropModifiers s = s := by
  cases s with
  | nil => rfl
  | cons c rest =>
      have hnone : (modifiers.find? fun word => word.toList.isPrefixOf (c :: rest)) = none := by
        rw [List.find?_eq_none]
        intro word hword hpre
        exact h word hword (List.isPrefixOf_iff_prefix.mp hpre)
      rw [dropModifiers, dropModifiersFrom, hnone]

/-! ## Delegates -/

/-- The keyword of a delegate. -/
def delegate : List Char := "delegate ".toList

/-- A text stays as it is that is no delegate, or is one on more lines than one. -/
theorem mapDelegate_eq_self (h : delegate <+: s → '\n' ∈ s) : mapDelegate s = s := by
  unfold mapDelegate
  cases hresult : "delegate ".toList.isPrefixOf? s with
  | none => rfl
  | some result =>
      have hs : delegate ++ result = s := List.isPrefixOf?_eq_some_iff_append_eq.mp hresult
      have hlines : onOneLine result = false := by
        have hmem := h ⟨result, hs⟩
        rw [← hs, List.mem_append] at hmem
        have hbreak : '\n' ∈ result := hmem.resolve_left (by decide)
        simpa [onOneLine] using hbreak
      simp only [hlines]
      rfl

/-- A text is no delegate on one line, or it is mapped to an action. -/
theorem mapDelegate_cases (s : List Char) :
    (delegate <+: s → '\n' ∈ s) ∨
      ∃ result, s = delegate ++ result ∧ mapDelegate s = "Action<".toList ++ (result ++ ['>']) := by
  by_cases h : delegate <+: s → '\n' ∈ s
  · exact .inl h
  · rw [Classical.not_imp] at h
    obtain ⟨⟨result, rfl⟩, hline⟩ := h
    have hone : onOneLine result = true :=
      onOneLine_iff.mpr fun hmem => hline (List.mem_append_right delegate hmem)
    refine .inr ⟨result, rfl, ?_⟩
    have hresult : "delegate ".toList.isPrefixOf? (delegate ++ result) = some result :=
      isPrefixOf?_append delegate result
    rw [mapDelegate, hresult]
    simp only [hone, if_true, List.append_assoc]

/-- A text that ends with another character does not end with the piece. -/
theorem isSuffixOf_concat_eq_false {c : Char} (h : EndsWithout (· == c) s) (front : List Char) :
    (front ++ [c]).isSuffixOf s = false := by
  rw [Bool.eq_false_iff]
  intro hsuffix
  obtain ⟨before, rfl⟩ := List.isSuffixOf_iff_suffix.mp hsuffix
  obtain ⟨d, hlast, hd⟩ := h
  rw [← List.append_assoc, List.getLast?_concat, Option.some_inj] at hlast
  subst hlast
  simp at hd

/-- An action is never complete. -/
theorem isComplete_action (optional : Bool) (result : List Char) :
    isComplete optional (mapDictionaries ("Action<".toList ++ (result ++ ['>']))) = false := by
  have hunnamed : Unnamed "Action<".toList := by decide
  have hbracket : Unrecorded (· == ']') := .of_any (by decide)
  have hlast : EndsWithout (· == ']') (result ++ ['>']) :=
    (EndsWithout.of_none (List.cons_ne_nil _ _) (not_of_any (by decide))).append result
  have hends : EndsWithout (· == ']') ("Action<".toList ++ mapDictionaries (result ++ ['>'])) :=
    (endsWithout_mapped hbracket (mapDictionaries_mapped _) hlast).append _
  have hlist : "[]".toList.isSuffixOf ("Action<".toList ++ mapDictionaries (result ++ ['>'])) = false :=
    isSuffixOf_concat_eq_false hends ['[']
  rw [mapDictionaries_unnamed hunnamed]
  generalize mapDictionaries (result ++ ['>']) = out at hlist
  have hbare : (bareTypes.any fun type => type.toList == "Action<".toList ++ out) = false := rfl
  have hvalue : (valueTypes.any fun type => type.toList == "Action<".toList ++ out) = false := rfl
  rw [isComplete, hbare, hlist, hvalue, Bool.and_false]
  rfl

/-! ## Complete types -/

/-- What is known of a mapped text that is complete and not marked. -/
structure Emitted (t : List Char) : Prop where
  bare : ∀ word ∈ modifiers, ¬ word.toList <+: t
  unmarked : ∀ c ∈ t, (c != '?' && c != '@') = true
  ends : t.getLast?.any isBlank = false
  lines : delegate <+: t → '\n' ∈ t
  complete : isComplete false t = true
  present : absentSuffix.isSuffixOf t = false

theorem isSuffixOf_append_absentSuffix (s : List Char) :
    absentSuffix.isSuffixOf (s ++ absentSuffix) = true :=
  List.isSuffixOf_iff_suffix.mpr (List.suffix_append s absentSuffix)

theorem isBlank_foreign : Foreign isBlank := .of_any (by decide) (by decide)

theorem isBlank_unrecorded : Unrecorded isBlank := .of_any (by decide)

theorem countP_eq_of_filter {q : Char → Bool} (h : t.filter q = s.filter q) :
    t.countP q = s.countP q := by
  rw [List.countP_eq_length_filter, List.countP_eq_length_filter, h]

theorem mem_iff_of_filter {q : Char → Bool} (h : t.filter q = s.filter q) {c : Char}
    (hc : q c = true) : c ∈ t ↔ c ∈ s := by
  have hmem (u : List Char) : c ∈ u ↔ c ∈ u.filter q := by
    rw [List.mem_filter]
    exact (and_iff_left hc).symm
  rw [hmem t, h, ← hmem s]

/-- The mapping adds no white space. -/
theorem countP_isBlank_mapWhole (s : List Char) : (mapWhole s).countP isBlank ≤ s.countP isBlank := by
  have hdelegate (x : List Char) : (mapDelegate x).countP isBlank ≤ x.countP isBlank := by
    rcases mapDelegate_cases x with hsame | ⟨result, rfl, hmapped⟩
    · rw [mapDelegate_eq_self hsame]
    · have haction : "Action<".toList.countP isBlank = 0 := by decide
      have hclosing : ['>'].countP isBlank = 0 := by decide
      rw [hmapped, List.countP_append, List.countP_append, List.countP_append, haction, hclosing]
      omega
  calc (mapWhole s).countP isBlank
      = (mapDelegate (mapWords (dropModifiers s))).countP isBlank :=
        countP_eq_of_filter (filter_mapped isBlank_unrecorded (mapDictionaries_mapped _))
    _ ≤ (mapWords (dropModifiers s)).countP isBlank := hdelegate _
    _ = (dropModifiers s).countP isBlank :=
        countP_eq_of_filter (filter_mapWords isBlank_foreign (dropModifiers s))
    _ ≤ s.countP isBlank := (dropModifiers_suffix s).sublist.countP_le

namespace Emitted

theorem withoutMarks (h : Emitted t) : TypeText.withoutMarks t = trim t := by
  rw [TypeText.withoutMarks, List.filter_eq_self.mpr h.unmarked]

theorem contains_eq_false (h : Emitted t) : t.contains '?' = false := by
  rw [Bool.eq_false_iff]
  intro hmem
  have hmark := h.unmarked '?' (by simpa using hmem)
  exact absurd hmark (by decide)

/-- Normalized to itself, a text is made of its trimmed text by the mapping. -/
theorem eq_nil_or_mapWhole_eq (h : Emitted t) (heq : normalizeChars t = t) :
    t = [] ∨ mapWhole (trim t) = t := by
  rw [normalizeChars, h.present, h.withoutMarks] at heq
  simp only [Bool.false_eq_true, if_false] at heq
  split at heq
  · exact .inl heq.symm
  · split at heq
    · exact .inr heq
    · have hpresent := h.present
      rw [← heq, isSuffixOf_append_absentSuffix] at hpresent
      cases hpresent

/-- White space at the head of a text does not stay. -/
theorem head?_eq_false (h : Emitted t) (heq : normalizeChars t = t) :
    t.head?.any isBlank = false := by
  rcases h.eq_nil_or_mapWhole_eq heq with rfl | hmapped
  · rfl
  · -- the trimmed text has less white space, and the mapping brings none back
    rw [Bool.eq_false_iff]
    intro hhead
    have hlt := countP_trim_lt hhead
    have hle := countP_isBlank_mapWhole (trim t)
    rw [hmapped] at hle
    omega

theorem trim_eq_self (h : Emitted t) (hhead : t.head?.any isBlank = false) : trim t = t :=
  Text.trim_eq_self hhead h.ends

/-- Mapped words do not make a delegate on one line. -/
theorem mapDelegate_mapWords (h : Emitted t) : mapDelegate (mapWords t) = mapWords t := by
  have hline : Foreign (· == '\n') := .of_any (by decide) (by decide)
  refine mapDelegate_eq_self fun hdelegate => ?_
  have hmem := h.lines (prefix_of_prefix_mapWords (by decide) hdelegate)
  exact (mem_iff_of_filter (filter_mapWords hline t) rfl).mpr hmem

/-- A complete text is normalized to itself exactly when it begins with no white space and has
neither a word of the vocabulary nor a dictionary. -/
theorem normalizeChars_eq_self_iff (h : Emitted t) :
    normalizeChars t = t ↔
      t.head?.any isBlank = false ∧ hasVocabulary t = false ∧ ¬ dictionary <:+: t := by
  constructor
  · intro heq
    have hhead := h.head?_eq_false heq
    refine ⟨hhead, ?_⟩
    rcases h.eq_nil_or_mapWhole_eq heq with rfl | hmapped
    · decide
    · rw [h.trim_eq_self hhead, mapWhole, dropModifiers_eq_self h.bare, h.mapDelegate_mapWords]
        at hmapped
      have hfound := (mapDictionaries_mapped (mapWords t)).same_or_records_lt
      rw [hmapped] at hfound
      -- words bring no record, so a text that is mapped to itself has had no dictionary mapped
      rcases hfound with ⟨hnone, hsame⟩ | ⟨-, hlt⟩
      · rw [← hsame] at hnone
        exact ⟨mapWords_eq_self_iff.mp hsame.symm, hnone⟩
      · have hrecord : Foreign (· == 'R') := .of_any (by decide) (by decide)
        have hsame : records (mapWords t) = records t :=
          countP_eq_of_filter (filter_mapWords hrecord t)
        omega
  · rintro ⟨hhead, hwords, hnone⟩
    have hmapped : mapWhole t = t := by
      have hsame := (mapDictionaries_mapped t).same_or_records_lt
      rw [mapWhole, dropModifiers_eq_self h.bare, mapWords_eq_self hwords, mapDelegate_eq_self h.lines]
      exact (hsame.resolve_right fun hsome => hnone hsome.1).2
    simp only [normalizeChars, h.present, h.withoutMarks, h.trim_eq_self hhead, hmapped,
      h.contains_eq_false, h.complete, Bool.false_eq_true, if_false, if_true]
    cases t <;> rfl

end Emitted

/-! ## What a complete text was made of -/

/-- The text that is mapped: the trimmed text without its marks and leading modifiers. -/
def bareText (raw : List Char) : List Char := dropModifiers (withoutMarks raw)

/-- A complete text is made of the bare text by mapping words and dictionaries. -/
theorem mapWhole_of_isComplete {optional : Bool} (h : isComplete optional (mapWhole s) = true) :
    (delegate <+: mapWords (dropModifiers s) → '\n' ∈ mapWords (dropModifiers s)) ∧
      mapWhole s = mapDictionaries (mapWords (dropModifiers s)) := by
  rcases mapDelegate_cases (mapWords (dropModifiers s)) with hsame | ⟨result, -, hmapped⟩
  · exact ⟨hsame, by rw [mapWhole, mapDelegate_eq_self hsame]⟩
  · rw [mapWhole, hmapped, isComplete_action] at h
    cases h

theorem isComplete_of_optional {optional : Bool} (h : isComplete optional t = true) :
    isComplete false t = true := by
  cases optional with
  | false => exact h
  | true =>
      simp only [isComplete, Bool.not_true, Bool.false_and, Bool.or_false] at h
      simp only [isComplete, h, Bool.true_or]

theorem getLast?_any_eq_false_iff {q : Char → Bool} :
    s.getLast?.any q = false ↔ s = [] ∨ EndsWithout q s := by
  cases hlast : s.getLast? with
  | none => simp [List.getLast?_eq_none_iff.mp hlast]
  | some c =>
      have hne : s ≠ [] := by
        rintro rfl
        cases hlast
      constructor
      · intro hc
        exact .inr ⟨c, hlast, hc⟩
      · rintro (hnil | ⟨d, hd, hqd⟩)
        · exact absurd hnil hne
        · rw [hlast] at hd
          cases hd
          exact hqd

/-- The bare text ends as the trimmed one does. -/
theorem getLast?_bareText (raw : List Char) : (bareText raw).getLast?.any isBlank = false := by
  have htrimmed : (withoutMarks raw).getLast?.any isBlank = false := getLast?_trim _
  obtain ⟨front, hfront⟩ := dropModifiers_suffix (withoutMarks raw)
  rw [getLast?_any_eq_false_iff] at htrimmed ⊢
  by_cases hne : bareText raw = []
  · exact .inl hne
  · have hends : EndsWithout isBlank (front ++ bareText raw) := by
      rw [bareText, hfront]
      refine htrimmed.resolve_left fun hnil => hne ?_
      exact List.suffix_nil.mp (hnil ▸ dropModifiers_suffix (withoutMarks raw))
    exact .inr (hends.of_append hne)

theorem unmarked_bareText (raw : List Char) : ∀ c ∈ bareText raw, (c != '?' && c != '@') = true := by
  intro c hc
  have hsub := (dropModifiers_suffix (withoutMarks raw)).sublist.trans
    (trim_sublist (raw.filter fun c => c != '?' && c != '@'))
  exact (List.mem_filter.mp (hsub.subset hc)).2

/-- The mapped text is as described if it is complete and not marked. -/
theorem emitted_of_isComplete {raw : List Char} {optional : Bool}
    (hcomplete : isComplete optional (mapWhole (withoutMarks raw)) = true)
    (hpresent : absentSuffix.isSuffixOf (mapWhole (withoutMarks raw)) = false) :
    Emitted (mapWhole (withoutMarks raw)) := by
  obtain ⟨hlines, hmapped⟩ := mapWhole_of_isComplete hcomplete
  have hdictionaries := mapDictionaries_mapped (mapWords (bareText raw))
  rw [hmapped] at hcomplete hpresent ⊢
  change delegate <+: mapWords (bareText raw) → '\n' ∈ mapWords (bareText raw) at hlines
  change Emitted (mapDictionaries (mapWords (bareText raw)))
  refine ⟨?_, ?_, ?_, ?_, isComplete_of_optional hcomplete, hpresent⟩
  · have hunseen : ∀ word ∈ modifiers, Unseen opening word.toList ∧
        ∀ entry ∈ wordImages, Unseen entry.2.toList word.toList := by decide
    intro word hword hpre
    obtain ⟨hrecord, himage⟩ := hunseen word hword
    refine modifier_not_begins_dropModifiersFrom 0 (withoutMarks raw) word hword ?_
    exact prefix_of_prefix_mapWords himage (prefix_of_prefix_mapped hdictionaries hrecord hpre)
  · let isMark : Char → Bool := fun c => !(c != '?' && c != '@')
    have hwords : Foreign isMark := .of_any (by decide) (by decide)
    have hrecords : Unrecorded isMark := .of_any (by decide)
    have hkept := (filter_mapped hrecords hdictionaries).trans (filter_mapWords hwords (bareText raw))
    intro c hc
    by_contra hunmarked
    have hmark : isMark c = true := by
      simp only [isMark, Bool.eq_false_iff.mpr hunmarked, Bool.not_false]
    exact hunmarked (unmarked_bareText raw c ((mem_iff_of_filter hkept hmark).mp hc))
  · rw [getLast?_any_eq_false_iff]
    rcases getLast?_any_eq_false_iff.mp (getLast?_bareText raw) with hnil | hends
    · rw [hnil]
      exact .inl (by decide)
    · exact .inr (endsWithout_mapped isBlank_unrecorded hdictionaries
        (endsWithout_mapWords isBlank_foreign hends))
  · have hline : Unrecorded (· == '\n') := .of_any (by decide)
    intro hdelegate
    have hmem := hlines (prefix_of_prefix_mapped hdictionaries (by decide) hdelegate)
    exact (mem_iff_of_filter (filter_mapped hline hdictionaries) rfl).mpr hmem

/-! ## Normalizing twice -/

/-- A bare text of which nothing is left when it is mapped: it begins with no white space, and no
dictionary of it stands directly before a word of the vocabulary, or directly before another one
that goes on with a character other than `<`. -/
structure Settles (bare : List Char) : Prop where
  begins : bare.head?.any isBlank = false
  words : followsDictionary startsVocabulary bare = false
  dictionaries : followsDictionary startsDictionary bare = false

/-- A bare text settles exactly when its mapped text would be mapped to itself. -/
theorem settles_iff (bare : List Char) :
    Settles bare ↔
      (mapDictionaries (mapWords bare)).head?.any isBlank = false ∧
        hasVocabulary (mapDictionaries (mapWords bare)) = false ∧
        ¬ dictionary <:+: mapDictionaries (mapWords bare) := by
  have hdictionaries := mapDictionaries_mapped (mapWords bare)
  have hhead : (mapDictionaries (mapWords bare)).head?.any isBlank = bare.head?.any isBlank := by
    rw [head?_mapped isBlank_unrecorded hdictionaries, head?_mapWords isBlank_foreign]
  have hleft := dictionary_infix_mapped_iff hdictionaries
  rw [followsDictionary_mapWords startsDictionary_looksAtWord] at hleft
  have hwords (hnone : followsDictionary startsDictionary bare = false) :
      hasVocabulary (mapDictionaries (mapWords bare)) = followsDictionary startsVocabulary bare := by
    rw [← followsDictionary_mapWords startsDictionary_looksAtWord] at hnone
    calc hasVocabulary (mapDictionaries (mapWords bare))
        = (hasVocabulary (mapWords bare) || followsDictionary startsVocabulary (mapWords bare)) :=
          hasVocabulary_mapped hdictionaries hnone []
      _ = followsDictionary startsVocabulary bare := by
          rw [hasVocabulary_mapWords, Bool.false_or,
            followsDictionary_mapWords startsVocabulary_looksAtWord]
  rw [hhead, hleft, Bool.not_eq_true]
  constructor
  · intro h
    exact ⟨h.begins, by rw [hwords h.dictionaries, h.words], h.dictionaries⟩
  · rintro ⟨hbegins, hvocabulary, hnone⟩
    exact ⟨hbegins, by rw [← hwords hnone, hvocabulary], hnone⟩

theorem normalizeChars_of_marked (h : absentSuffix.isSuffixOf s = true) : normalizeChars s = s := by
  rw [normalizeChars, if_pos h]

/-- An unmarked normalized text is empty or complete. -/
theorem normalizeChars_cases (raw : List Char) :
    absentSuffix.isSuffixOf (normalizeChars raw) = true ∨
      (withoutMarks raw = [] ∧ normalizeChars raw = []) ∨
      (isComplete (raw.contains '?') (mapWhole (withoutMarks raw)) = true ∧
        normalizeChars raw = mapWhole (withoutMarks raw)) := by
  unfold normalizeChars
  dsimp only
  split_ifs with hmarked hempty hcomplete
  · exact .inl hmarked
  · exact .inr (.inl ⟨List.isEmpty_iff.mp hempty, rfl⟩)
  · exact .inr (.inr ⟨hcomplete, rfl⟩)
  · exact .inl (isSuffixOf_append_absentSuffix _)

/-- A normalized text is normalized to itself exactly when it is marked as possibly absent, or when
the bare text began with no white space and had no dictionary directly before a word of the
vocabulary or before another dictionary that opens no type arguments. -/
theorem normalizeChars_normalizeChars_iff (raw : List Char) :
    normalizeChars (normalizeChars raw) = normalizeChars raw ↔
      absentSuffix.isSuffixOf (normalizeChars raw) = true ∨ Settles (bareText raw) := by
  rcases normalizeChars_cases raw with hmarked | ⟨hempty, hnil⟩ | ⟨hcomplete, hmapped⟩
  · exact iff_of_true (normalizeChars_of_marked hmarked) (.inl hmarked)
  · have hbare : bareText raw = [] := by
      rw [bareText, hempty]
      rfl
    rw [hnil, hbare]
    exact iff_of_true (by decide) (.inr ⟨rfl, rfl, rfl⟩)
  · rw [hmapped]
    cases hpresent : absentSuffix.isSuffixOf (mapWhole (withoutMarks raw)) with
    | true => exact iff_of_true (normalizeChars_of_marked hpresent) (.inl rfl)
    | false =>
        have hbare : mapWhole (withoutMarks raw) = mapDictionaries (mapWords (bareText raw)) :=
          (mapWhole_of_isComplete hcomplete).2
        rw [(emitted_of_isComplete hcomplete hpresent).normalizeChars_eq_self_iff, hbare,
          ← settles_iff]
        simp only [Bool.false_eq_true, false_or]

/-- Normalizing a type text twice is normalizing it once exactly where the normalized text is marked
as possibly absent, or the bare text settles. -/
theorem normalize_normalize_iff (raw : String) :
    normalize (normalize raw) = normalize raw ↔
      absentSuffix.isSuffixOf (normalize raw).toList = true ∨ Settles (bareText raw.toList) := by
  have hchars : (normalize raw).toList = normalizeChars raw.toList := by
    rw [normalize, String.toList_ofList]
  rw [hchars, ← normalizeChars_normalizeChars_iff, ← String.toList_inj, hchars, normalize, hchars,
    String.toList_ofList]

/-- A second blank behind a modifier is left at the head of the list type, and trimmed when it is
normalized again. -/
theorem normalize_normalize_ne :
    normalize (normalize "readonly  int[]") ≠ normalize "readonly  int[]" := by
  decide

end ClassRecovery.TypeText
