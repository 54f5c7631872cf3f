import ClassRecovery.Proofs.Text.Cut
import ClassRecovery.Proofs.TypeText.Dictionaries
import Mathlib.Data.List.DropRight

/-!
# What is left to map in a mapped text

A dictionary is followed by what its image is followed by, but the image ends with a mark and the
name ends with a letter. So a word of the vocabulary that stands directly behind the name becomes a
word of the text (`hasVocabulary_mapped`), and of two names in a row the second is not seen by the
pass that maps the first (`dictionary_infix_mapped_iff`). Nothing else is left to map.
-/

set_option autoImplicit false

namespace ClassRecovery.TypeText

open Text

variable {s t rest name piece front x : List Char} {c : Char}

/-! ## Texts with and without dictionaries -/

theorem dictionary_mem_names : dictionary ∈ dictionaryNames := by decide

theorem dictionary_suffix_of_mem (h : name ∈ dictionaryNames) : dictionary <:+ name := by
  have hall : ∀ name ∈ dictionaryNames, dictionary <:+ name := by decide
  exact hall name h

/-- Where no name begins, the dictionaries are behind the first character. -/
theorem dictionary_infix_cons_iff (h : afterDictionary? (c :: rest) = none) :
    dictionary <:+: c :: rest ↔ dictionary <:+: rest := by
  rw [List.infix_cons_iff]
  constructor
  · rintro (hpre | hlater)
    · exact absurd hpre (afterDictionary?_eq_none_iff.mp h _ dictionary_mem_names)
    · exact hlater
  · exact .inr

/-- The number of letters `R`, with which only records begin. -/
def records (s : List Char) : Nat := s.countP (· == 'R')

theorem records_append (s t : List Char) : records (s ++ t) = records s + records t :=
  List.countP_append

theorem records_cons (c : Char) (s : List Char) : records (c :: s) = records [c] + records s :=
  records_append [c] s

theorem records_of_mem_names (h : name ∈ dictionaryNames) : records name = 0 := by
  have hall : ∀ name ∈ dictionaryNames, records name = 0 := by decide
  exact hall name h

theorem records_plainRecord : records plainRecord = 1 := by decide

/-- A text without dictionaries stays as it is, and any other one gets more records. -/
theorem Mapped.same_or_records_lt (h : Mapped s t) :
    (¬ dictionary <:+: s ∧ t = s) ∨ (dictionary <:+: s ∧ records s < records t) := by
  have hnamed {name rest : List Char} (hname : name ∈ dictionaryNames) :
      dictionary <:+: name ++ rest :=
    (dictionary_suffix_of_mem hname).isInfix.trans (List.prefix_append name rest).isInfix
  have hle {rest out : List Char}
      (ih : (¬ dictionary <:+: rest ∧ out = rest) ∨
        (dictionary <:+: rest ∧ records rest < records out)) : records rest ≤ records out := by
    rcases ih with ⟨-, rfl⟩ | ⟨-, hlt⟩
    · exact le_rfl
    · exact hlt.le
  induction h with
  | nil => exact .inl ⟨by decide, rfl⟩
  | @copied c rest out hunnamed _ ih =>
      rw [dictionary_infix_cons_iff hunnamed]
      rcases ih with ⟨hnone, rfl⟩ | ⟨hsome, hlt⟩
      · exact .inl ⟨hnone, rfl⟩
      · refine .inr ⟨hsome, ?_⟩
        rw [records_cons c rest, records_cons c out]
        omega
  | @generic name rest out hname _ ih =>
      refine .inr ⟨hnamed hname, ?_⟩
      have hopening : records opening = 1 := by decide
      have hmark : records ['<'] = 0 := by decide
      have hgrown := hle ih
      rw [records_append, records_append, records_of_mem_names hname, hopening, records_cons, hmark]
      omega
  | plain hname _ _ _ ih =>
      refine .inr ⟨hnamed hname, ?_⟩
      have hgrown := hle ih
      rw [records_append, records_append, records_of_mem_names hname, records_plainRecord]
      omega
  | @shadowing name rest out c hname _ _ _ ih =>
      refine .inr ⟨hnamed hname, ?_⟩
      have hgrown := hle ih
      rw [records_append, records_append, records_of_mem_names hname, records_plainRecord,
        records_cons c rest, records_cons c out]
      omega

/-! ## What follows a dictionary -/

/-- What follows some dictionary of the text has the property. -/
def followsDictionary (p : List Char → Bool) : List Char → Bool
  | [] => false
  | c :: rest => (dictionary.isPrefixOf? (c :: rest)).any p || followsDictionary p rest

/-- The text begins with a word of the vocabulary. -/
def startsVocabulary (s : List Char) : Bool := isVocabulary (s.takeWhile isWord)

/-- The text begins with a dictionary, and that is followed by a character other than `<`. -/
def startsDictionary (s : List Char) : Bool :=
  (dictionary.isPrefixOf? s).any fun after => after.head?.any (· != '<')

section Follows

variable {p : List Char → Bool}

theorem isPrefixOf?_eq_none (h : ¬ piece <+: s) : piece.isPrefixOf? s = none := by
  rw [Option.eq_none_iff_forall_ne_some]
  intro rest hrest
  exact h ⟨rest, List.isPrefixOf?_eq_some_iff_append_eq.mp hrest⟩

theorem isPrefixOf?_append (piece rest : List Char) : piece.isPrefixOf? (piece ++ rest) = some rest :=
  List.isPrefixOf?_eq_some_iff_append_eq.mpr rfl

theorem followsDictionary_cons (h : ¬ dictionary <+: c :: rest) :
    followsDictionary p (c :: rest) = followsDictionary p rest := by
  rw [followsDictionary, isPrefixOf?_eq_none h, Option.any_none, Bool.false_or]

theorem followsDictionary_unseen (h : Unseen dictionary front) (x : List Char) :
    followsDictionary p (front ++ x) = followsDictionary p x := by
  induction front with
  | nil => rfl
  | cons c front ih =>
      have hhere : ¬ dictionary <+: c :: (front ++ x) := h.not_begins (List.cons_ne_nil c front) x
      rw [List.cons_append, followsDictionary_cons hhere, ih h.tail]

/-- Behind a name stands what follows it, and what follows it goes on. -/
theorem followsDictionary_name (hname : name ∈ dictionaryNames) (rest : List Char) :
    followsDictionary p (name ++ rest) = (p rest || followsDictionary p rest) := by
  have hdictionary : dictionary = 'D' :: "ictionary".toList := by decide
  have hsplit : ∀ name ∈ dictionaryNames,
      ∃ front ∈ ["ss.Js".toList, "ss.".toList, "Js".toList, []],
        name = front ++ dictionary ∧ Unseen dictionary front := by
    decide
  obtain ⟨front, -, rfl, hfront⟩ := hsplit name hname
  rw [List.append_assoc, followsDictionary_unseen hfront, hdictionary, List.cons_append,
    followsDictionary, ← List.cons_append, ← hdictionary, isPrefixOf?_append, Option.any_some,
    followsDictionary_unseen (by decide)]

theorem startsDictionary_cons (c : Char) (rest : List Char) (h : ¬ dictionary <+: c :: rest) :
    startsDictionary (c :: rest) = false := by
  rw [startsDictionary, isPrefixOf?_eq_none h, Option.any_none]

/-- Before a text that the third pass maps at its head stands a dictionary, if its name is the short
one. -/
theorem startsDictionary_of_startsPlain (h : startsPlain s = true) (hs : dictionary <+: s) :
    startsDictionary s = true := by
  obtain ⟨rest, rfl⟩ := hs
  rw [startsPlain_append dictionary_mem_names] at h
  rw [startsDictionary, isPrefixOf?_append, Option.any_some, h]

theorem startsDictionary_eq_false (h : startsPlain s = false) : startsDictionary s = false := by
  by_cases hs : dictionary <+: s
  · obtain ⟨rest, rfl⟩ := hs
    rw [startsPlain_append dictionary_mem_names] at h
    rw [startsDictionary, isPrefixOf?_append, Option.any_some, h]
  · rw [startsDictionary, isPrefixOf?_eq_none hs, Option.any_none]

end Follows

/-- A dictionary is left exactly where one followed another, and no arguments it. -/
theorem dictionary_infix_mapped_iff (h : Mapped s t) :
    dictionary <:+: t ↔ followsDictionary startsDictionary s = true := by
  have hplainRecord : Unseen dictionary plainRecord := by decide
  induction h with
  | nil => decide
  | @copied c rest out hunnamed later ih =>
      have hhere := afterDictionary?_eq_none_iff.mp hunnamed _ dictionary_mem_names
      have hhere' : ¬ dictionary <+: c :: out := fun hpre =>
        hhere ((dictionary_prefix_cons_iff later c).mp hpre)
      rw [List.infix_cons_iff, followsDictionary_cons hhere]
      exact (or_iff_right hhere').trans ih
  | @generic name rest out hname _ ih =>
      have hhere : ¬ dictionary <+: '<' :: rest := by
        rintro ⟨more, hmore⟩
        cases hmore
      rw [infix_append_of_unseen (by decide), followsDictionary_name hname,
        startsDictionary_cons _ _ hhere, followsDictionary_cons hhere, Bool.false_or]
      exact ih
  | plain hname _ hseen _ ih =>
      rw [infix_append_of_unseen hplainRecord, followsDictionary_name hname,
        startsDictionary_eq_false hseen, Bool.false_or]
      exact ih
  | @shadowing name rest out c hname _ hunseen later ih =>
      rw [infix_append_of_unseen hplainRecord, followsDictionary_name hname, List.infix_cons_iff,
        dictionary_prefix_cons_iff later]
      -- the one that is not seen stays if it has the short name, and of a longer name the short one
      -- at its end is seen again
      by_cases hhere : dictionary <+: c :: rest
      · rw [startsDictionary_of_startsPlain hunseen hhere, Bool.true_or]
        exact iff_of_true (.inl hhere) rfl
      · rw [startsDictionary_cons _ _ hhere, followsDictionary_cons hhere, Bool.false_or]
        exact (or_iff_right hhere).trans ih

/-! ## The words around a name and around a record -/

/-- A part of a word that no word of the vocabulary has. -/
structure Uncommon (core : List Char) : Prop where
  ne_nil : core ≠ []
  word : core.all isWord = true
  unknown : ∀ entry ∈ wordImages, ¬ core <:+: entry.1.toList

/-- The words of a text before the one it breaks off in stay words when the text goes on. -/
theorem hasVocabulary_append_rdropWhile (front x : List Char) :
    hasVocabulary (front ++ x)
      = (hasVocabulary (front.rdropWhile isWord)
        || hasVocabulary (front.rtakeWhile isWord ++ x)) := by
  have hsplit : front.rdropWhile isWord ++ front.rtakeWhile isWord = front :=
    List.rdropWhile_append_rtakeWhile
  have hmark (before : List Char) {m : Char} (hm : isWord m = false) (y : List Char) :
      hasVocabulary (before ++ [m] ++ y) = (hasVocabulary before || hasVocabulary y) := by
    have hhead : ([m] ++ y).head?.any isWord = false := hm
    rw [List.append_assoc, hasVocabulary_append hhead]
    exact congrArg _ (hasVocabulary_mark hm y)
  conv_lhs => rw [← hsplit, List.append_assoc]
  rcases List.eq_nil_or_concat' (front.rdropWhile isWord) with hnil | ⟨before, m, hconcat⟩
  · rw [hnil]
    rfl
  · have hne : front.rdropWhile isWord ≠ [] := by
      rw [hconcat]
      exact List.append_ne_nil_of_right_ne_nil before (List.cons_ne_nil m [])
    have hm : isWord m = false := by
      have hlast := List.rdropWhile_last_not isWord front hne
      simp only [hconcat, List.getLast_append_singleton, Bool.not_eq_true] at hlast
      exact hlast
    have hbefore := hmark before hm []
    rw [List.append_nil] at hbefore
    rw [hconcat, hmark before hm, hbefore]
    exact congrArg (· || _) (Bool.or_false _).symm

/-- The word that such a part stands in is no word of the vocabulary. -/
theorem hasVocabulary_around {core : List Char} (hcore : Uncommon core) (front x : List Char) :
    hasVocabulary (front ++ (core ++ x))
      = (hasVocabulary (front.rdropWhile isWord) || hasVocabulary (x.dropWhile isWord)) := by
  let w := front.rtakeWhile isWord ++ core ++ x.takeWhile isWord
  have hsplit : front.rtakeWhile isWord ++ (core ++ x) = w ++ x.dropWhile isWord := by
    simp only [w, List.append_assoc, List.takeWhile_append_dropWhile]
  have hne : w ≠ [] := by
    simp only [w, ne_eq, List.append_eq_nil_iff, hcore.ne_nil, and_false, false_and,
      not_false_eq_true]
  have hword : ∀ c ∈ w, isWord c = true := by
    intro c hc
    simp only [w, List.mem_append] at hc
    rcases hc with (hc | hc) | hc
    · exact List.mem_rtakeWhile_imp hc
    · exact List.all_eq_true.mp hcore.word c hc
    · exact List.mem_takeWhile_imp hc
  have hunknown : isVocabulary w = false := by
    rw [isVocabulary, List.any_eq_false]
    intro entry hentry heq
    refine hcore.unknown entry hentry ?_
    rw [beq_iff_eq.mp heq]
    exact ⟨front.rtakeWhile isWord, x.takeWhile isWord, rfl⟩
  rw [hasVocabulary_append_rdropWhile, hsplit,
    hasVocabulary_run hne hword (head?_dropWhile isWord x), hunknown, Bool.false_or]

/-- The word that a text begins with, and the later ones. -/
theorem hasVocabulary_eq (x : List Char) :
    hasVocabulary x = (startsVocabulary x || hasVocabulary (x.dropWhile isWord)) := by
  have hsplit : x.takeWhile isWord ++ x.dropWhile isWord = x := List.takeWhile_append_dropWhile
  conv_lhs => rw [← hsplit]
  rw [startsVocabulary]
  by_cases hne : x.takeWhile isWord = []
  · have hempty : isVocabulary [] = false := by decide
    rw [hne, hempty, Bool.false_or, List.nil_append]
  · exact hasVocabulary_run hne (fun c hc => List.mem_takeWhile_imp hc) (head?_dropWhile isWord x)

/-- A name, which may have its qualifier, makes a word with what stands around it. -/
theorem hasVocabulary_name (hname : name ∈ dictionaryNames) (front x : List Char) :
    hasVocabulary (front ++ (name ++ x))
      = (hasVocabulary (front.rdropWhile isWord) || hasVocabulary (x.dropWhile isWord)) := by
  have hdictionary : Uncommon dictionary :=
    ⟨by decide, by decide, by decide⟩
  have hscript : Uncommon "JsDictionary".toList :=
    ⟨by decide, by decide, by decide⟩
  have hqualifier : Uncommon "ss".toList :=
    ⟨by decide, by decide, by decide⟩
  have hqualified {core : List Char} (hcore : Uncommon core) :
      hasVocabulary (front ++ ("ss".toList ++ ('.' :: (core ++ x))))
        = (hasVocabulary (front.rdropWhile isWord) || hasVocabulary (x.dropWhile isWord)) := by
    have hmark : isWord '.' = false := by decide
    have hlater : hasVocabulary (core ++ x) = hasVocabulary (x.dropWhile isWord) :=
      hasVocabulary_around hcore [] x
    rw [hasVocabulary_around hqualifier, List.dropWhile_cons_of_neg (by simp [hmark]),
      hasVocabulary_mark hmark, hlater]
  simp only [dictionaryNames, List.mem_cons, List.not_mem_nil, or_false] at hname
  rcases hname with rfl | rfl | rfl | rfl
  · exact hqualified hscript
  · exact hqualified hdictionary
  · exact hasVocabulary_around hscript front x
  · exact hasVocabulary_around hdictionary front x

theorem hasVocabulary_record (front x : List Char) :
    hasVocabulary (front ++ ("Record".toList ++ '<' :: x))
      = (hasVocabulary (front.rdropWhile isWord) || hasVocabulary x) := by
  have hcore : Uncommon "Record".toList :=
    ⟨by decide, by decide, by decide⟩
  have hmark : isWord '<' = false := by decide
  rw [hasVocabulary_around hcore, List.dropWhile_cons_of_neg (by simp [hmark]),
    hasVocabulary_mark hmark]

theorem hasVocabulary_opening (front x : List Char) :
    hasVocabulary (front ++ (opening ++ x))
      = (hasVocabulary (front.rdropWhile isWord) || hasVocabulary x) :=
  hasVocabulary_record front x

theorem hasVocabulary_plainRecord (front x : List Char) :
    hasVocabulary (front ++ (plainRecord ++ x))
      = (hasVocabulary (front.rdropWhile isWord) || hasVocabulary x) := by
  have hmark : isWord '>' = false := by decide
  have harguments : hasVocabulary "string,any".toList = false := by decide
  have hhead : ('>' :: x).head?.any isWord = false := hmark
  have h : hasVocabulary (front ++ (plainRecord ++ x))
      = (hasVocabulary (front.rdropWhile isWord)
        || hasVocabulary ("string,any".toList ++ '>' :: x)) := hasVocabulary_record front _
  rw [h, hasVocabulary_append hhead, harguments, Bool.false_or, hasVocabulary_mark hmark]

/-- The words that a mapped text has of the vocabulary stood directly behind a dictionary, or were
there before, where no dictionary is left. -/
theorem hasVocabulary_mapped (h : Mapped s t)
    (hleft : followsDictionary startsDictionary s = false) (front : List Char) :
    hasVocabulary (front ++ t)
      = (hasVocabulary (front ++ s) || followsDictionary startsVocabulary s) := by
  -- the text in front is carried along, as a copied character may go on with a word of it
  induction h generalizing front with
  | nil => exact (Bool.or_false _).symm
  | @copied c rest out hunnamed _ ih =>
      have hhere := afterDictionary?_eq_none_iff.mp hunnamed _ dictionary_mem_names
      rw [followsDictionary_cons hhere] at hleft ⊢
      have hlater := ih hleft (front ++ [c])
      rwa [List.append_assoc, List.append_assoc] at hlater
  | @generic name rest out hname _ ih =>
      have hhere : ¬ dictionary <+: '<' :: rest := by
        rintro ⟨more, hmore⟩
        cases hmore
      have hmark : isWord '<' = false := by decide
      have hstart : startsVocabulary ('<' :: rest) = false := by
        rw [startsVocabulary, List.takeWhile_cons_of_neg (by simp [hmark])]
        decide
      rw [followsDictionary_name hname, startsDictionary_cons _ _ hhere, Bool.false_or,
        followsDictionary_cons hhere] at hleft
      have hlater := ih hleft []
      rw [List.nil_append, List.nil_append] at hlater
      rw [hasVocabulary_opening, hasVocabulary_name hname, followsDictionary_name hname, hstart,
        Bool.false_or, followsDictionary_cons hhere, hlater,
        List.dropWhile_cons_of_neg (by simp [hmark]), hasVocabulary_mark hmark, Bool.or_assoc]
  | @plain name rest out hname _ _ _ ih =>
      rw [followsDictionary_name hname, Bool.or_eq_false_iff] at hleft
      have hlater := ih hleft.2 []
      rw [List.nil_append, List.nil_append] at hlater
      rw [hasVocabulary_plainRecord, hasVocabulary_name hname, followsDictionary_name hname, hlater,
        hasVocabulary_eq rest]
      ac_rfl
  | @shadowing name rest out c hname _ hunseen _ ih =>
      rw [followsDictionary_name hname, Bool.or_eq_false_iff] at hleft
      have hhere : ¬ dictionary <+: c :: rest := by
        intro hpre
        rw [startsDictionary_of_startsPlain hunseen hpre] at hleft
        cases hleft.1
      rw [followsDictionary_cons hhere] at hleft
      have hlater : hasVocabulary (c :: out)
          = (hasVocabulary (c :: rest) || followsDictionary startsVocabulary rest) :=
        ih hleft.2 [c]
      rw [hasVocabulary_plainRecord, hasVocabulary_name hname, followsDictionary_name hname, hlater,
        followsDictionary_cons hhere, hasVocabulary_eq (c :: rest)]
      ac_rfl

/-! ## Mapped words behind dictionaries -/

/-- The property does not see beyond the word that a text begins with, but for the first character
behind it. -/
def LooksAtWord (p : List Char → Bool) : Prop :=
  ∀ w x y, (∀ c ∈ w, isWord c = true) → x.head?.any isWord = false → x.head? = y.head? →
    p (w ++ x) = p (w ++ y)

theorem takeWhile_isWord_append {w : List Char} (hw : ∀ c ∈ w, isWord c = true)
    (hx : x.head?.any isWord = false) : (w ++ x).takeWhile isWord = w := by
  have hnil : x.takeWhile isWord = [] := by
    cases x with
    | nil => rfl
    | cons c x =>
        have hc : isWord c = false := hx
        rw [List.takeWhile_cons_of_neg (by simp [hc])]
  rw [List.takeWhile_append_of_pos hw, hnil, List.append_nil]

theorem startsVocabulary_looksAtWord : LooksAtWord startsVocabulary := by
  intro w x y hw hx hxy
  rw [startsVocabulary, startsVocabulary, takeWhile_isWord_append hw hx,
    takeWhile_isWord_append hw (hxy ▸ hx)]

/-- A dictionary at the head of a text lies in the word that the text begins with. -/
theorem exists_dictionary_append {w : List Char} (hx : x.head?.any isWord = false)
    (h : dictionary <+: w ++ x) : ∃ beyond, w = dictionary ++ beyond := by
  rcases List.prefix_or_prefix_of_prefix h (List.prefix_append w x) with hwithin | hshort
  · obtain ⟨beyond, hbeyond⟩ := hwithin
    exact ⟨beyond, hbeyond.symm⟩
  · obtain ⟨more, hmore⟩ := hshort
    cases more with
    | nil => exact ⟨[], by rw [← hmore, List.append_nil, List.append_nil]⟩
    | cons d more =>
        -- the name would go on behind the word
        rw [← hmore, List.prefix_append_right_inj] at h
        obtain ⟨tail, rfl⟩ := h
        have hd : isWord d = true := by
          have hall : dictionary.all isWord = true := by decide
          exact List.all_eq_true.mp hall d (hmore ▸ List.mem_append_right w List.mem_cons_self)
        have hd' : isWord d = false := hx
        rw [hd] at hd'
        cases hd'

theorem isPrefixOf?_dictionary_append (beyond x : List Char) :
    dictionary.isPrefixOf? (dictionary ++ beyond ++ x) = some (beyond ++ x) := by
  rw [List.append_assoc]
  exact isPrefixOf?_append dictionary _

theorem startsDictionary_looksAtWord : LooksAtWord startsDictionary := by
  intro w x y hw hx hxy
  by_cases h : dictionary <+: w
  · obtain ⟨beyond, rfl⟩ := h
    rw [startsDictionary, startsDictionary, isPrefixOf?_dictionary_append,
      isPrefixOf?_dictionary_append, Option.any_some, Option.any_some, List.head?_append,
      List.head?_append, hxy]
  · have hnot {x : List Char} (hx : x.head?.any isWord = false) : ¬ dictionary <+: w ++ x := by
      intro hpre
      obtain ⟨beyond, hbeyond⟩ := exists_dictionary_append hx hpre
      exact h ⟨beyond, hbeyond.symm⟩
    rw [startsDictionary, startsDictionary, isPrefixOf?_eq_none (hnot hx),
      isPrefixOf?_eq_none (hnot (hxy ▸ hx))]

/-- What follows the dictionaries of a word. -/
theorem followsDictionary_word {p : List Char → Bool} (hp : LooksAtWord p) {w x y : List Char}
    (hw : ∀ c ∈ w, isWord c = true) (hx : x.head?.any isWord = false) (hxy : x.head? = y.head?)
    (hlater : followsDictionary p x = followsDictionary p y) :
    followsDictionary p (w ++ x) = followsDictionary p (w ++ y) := by
  induction w with
  | nil => exact hlater
  | cons c w ih =>
      have ih := ih fun d hd => hw d (List.mem_cons_of_mem c hd)
      by_cases h : dictionary <+: c :: w
      · obtain ⟨beyond, hbeyond⟩ := h
        have hfollowing := hp beyond x y
          (fun d hd => hw d (hbeyond ▸ List.mem_append_right dictionary hd)) hx hxy
        have hname (x : List Char) : dictionary.isPrefixOf? (c :: (w ++ x)) = some (beyond ++ x) := by
          rw [← List.cons_append, ← hbeyond, isPrefixOf?_dictionary_append]
        rw [List.cons_append, List.cons_append, followsDictionary, followsDictionary, hname, hname,
          Option.any_some, Option.any_some, hfollowing, ih]
      · have hnot {x : List Char} (hx : x.head?.any isWord = false) :
            ¬ dictionary <+: c :: (w ++ x) := by
          intro hpre
          obtain ⟨beyond, hbeyond⟩ := exists_dictionary_append (w := c :: w) hx hpre
          exact h ⟨beyond, hbeyond.symm⟩
        rw [List.cons_append, List.cons_append, followsDictionary_cons (hnot hx),
          followsDictionary_cons (hnot (hxy ▸ hx)), ih]

/-- Mapping words takes nothing from what follows the dictionaries of a text, and adds nothing. -/
theorem followsDictionary_mapWords {p : List Char → Bool} (hp : LooksAtWord p) (s : List Char) :
    followsDictionary p (mapWords s) = followsDictionary p s := by
  have hname {entry : String × String} (hentry : entry ∈ wordImages) :
      Unseen dictionary entry.1.toList ∧ Unseen dictionary entry.2.toList := by
    have hall : ∀ entry ∈ wordImages,
        Unseen dictionary entry.1.toList ∧ Unseen dictionary entry.2.toList := by decide
    exact hall entry hentry
  induction s using run_induction with
  | nil => rfl
  | mark c rest hc ih =>
      have hhere (x : List Char) : ¬ dictionary <+: c :: x := by
        rintro ⟨more, hmore⟩
        cases hmore
        exact absurd hc (by decide)
      rw [mapWords_mark hc, followsDictionary_cons (hhere _), followsDictionary_cons (hhere _), ih]
  | run w rest hne hw hrest ih =>
      have hhead := head?_mapWords_of_mark hrest
      cases mapWords_run hne hw hrest with
      | kept _ hmapped =>
          rw [hmapped]
          exact followsDictionary_word hp hw (hhead ▸ hrest) hhead ih
      | renamed hentry hw' hmapped =>
          rw [hmapped, hw', followsDictionary_unseen (hname hentry).1,
            followsDictionary_unseen (hname hentry).2, ih]
      | qualified hentry hw' _ hmapped hmore =>
          have hmark : Unseen dictionary ['.'] := by decide
          have hqualifier : Unseen dictionary ['s', 's'] := by decide
          rw [hmore] at ih
          rw [hmapped, hw', followsDictionary_unseen hqualifier, ← ih]
          exact (followsDictionary_unseen hmark _).symm

end ClassRecovery.TypeText
