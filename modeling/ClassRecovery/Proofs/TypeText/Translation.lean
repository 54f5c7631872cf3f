import ClassRecovery.Proofs.TypeText.Expression
import ClassRecovery.Proofs.TypeText.Idempotence

/-!
# Normalizing a type expression

The mapping is made of passes over the whole text. On the text of a type expression each pass does the
same at a head wherever it stands: the words of the heads are mapped first, which leaves dictionaries
as they are, and then the dictionaries (`mapWords_rewrites`, `mapDictionaries_rewrites`). No other rule
applies, as in such a text a space comes only behind a comma. Hence a type expression is normalized
head by head (`normalize_written`).
-/

set_option autoImplicit false

namespace ClassRecovery.TypeText

open Text

variable {w rest s : List Char}

/-! ## Names of heads -/

theorem isWord_of_isNameChar {c : Char} (h : isNameChar c = true) : isWord c = true := by
  rcases Bool.or_eq_true_iff.mp h with halphanum | hunderscore
  · have hcode := toNat_of_isAlphanum halphanum
    have hascii : isAscii c = true := decide_eq_true (by omega)
    rw [isWord, hascii, halphanum]
    rfl
  · rw [beq_iff_eq.mp hunderscore]
    decide

theorem isBlank_of_isNameChar {c : Char} (h : isNameChar c = true) : isBlank c = false := by
  rcases Bool.or_eq_true_iff.mp h with halphanum | hunderscore
  · exact isBlank_of_isAlphanum halphanum
  · rw [beq_iff_eq.mp hunderscore]
    decide

namespace Head

variable (head : Head)

theorem isNameChar_of_mem_name : ∀ c ∈ head.name.toList, isNameChar c = true := by
  have hname := head.isName
  rw [TypeText.isName, Bool.and_eq_true] at hname
  exact List.all_eq_true.mp hname.2

theorem isWord_of_mem_name : ∀ c ∈ head.name.toList, isWord c = true :=
  fun c hc => isWord_of_isNameChar (head.isNameChar_of_mem_name c hc)

theorem name_ne_nil : head.name.toList ≠ [] := by
  intro hnil
  have hname := head.isName
  rw [hnil] at hname
  cases hname

theorem text_ne_nil : head.text ≠ [] :=
  List.append_ne_nil_of_right_ne_nil _ head.name_ne_nil

end Head

theorem libraryWords_any (name : String) :
    (libraryWords.any fun word => word.toList == name.toList) = unqualifiedNames.contains name := by
  have hwords : unqualifiedNames = libraryWords := rfl
  rw [hwords, Bool.eq_iff_iff, List.any_eq_true, List.contains_iff_mem]
  constructor
  · rintro ⟨word, hword, heq⟩
    rw [beq_iff_eq, String.toList_inj] at heq
    exact heq ▸ hword
  · exact fun hmem => ⟨name, hmem, beq_self_eq_true _⟩

/-- The vocabulary has the names that are emitted under another one. -/
theorem wordImage_toList (name : String) : wordImage name.toList = (emittedName name).toList := by
  rcases wordImage_cases name.toList with ⟨hunknown, hsame⟩ | ⟨entry, hentry, hname, himage⟩
  · have hknown : ∀ entry ∈ emittedNames, ∀ name ∈ entry.1, isVocabulary name.toList = true := by
      decide
    have hnone : (emittedNames.find? fun entry => entry.1.contains name) = none := by
      rw [List.find?_eq_none]
      intro entry hentry hmem
      rw [hknown entry hentry name (List.contains_iff_mem.mp hmem)] at hunknown
      cases hunknown
    rw [hsame, emittedName, hnone]
    rfl
  · have hall : ∀ entry ∈ wordImages, emittedName entry.1 = entry.2 := by decide
    rw [himage, String.toList_inj.mp hname, hall entry hentry]

/-! ## The words of heads -/

/-- A word is mapped by itself if no mark follows that may be behind a qualifier. -/
theorem mapWords_word (hne : w ≠ []) (hw : ∀ c ∈ w, isWord c = true)
    (hrest : rest.head?.any isWord = false) (hdot : rest.head? ≠ some '.') :
    mapWords (w ++ rest) = wordImage w ++ mapWords rest := by
  unfold mapWords
  rw [tokens_run hne hw hrest]
  rcases dropLibraryQualifiers_word w (tokens rest) with hkept | ⟨library, later, -, htokens, -, -⟩
  · rw [hkept]
    rfl
  · obtain ⟨more, rfl, -⟩ := exists_mark_of_tokens htokens
    exact absurd rfl hdot

/-- A qualified word loses its qualifier if it is one of the library. -/
theorem mapWords_qualified (hne : w ≠ []) (hw : ∀ c ∈ w, isWord c = true)
    (hrest : rest.head?.any isWord = false) (hdot : rest.head? ≠ some '.') :
    mapWords (qualifier ++ (w ++ rest))
      = (if libraryWords.any (·.toList == w) then [] else qualifier)
        ++ (wordImage w ++ mapWords rest) := by
  have hword := mapWords_word hne hw hrest hdot
  have hmark : isWord '.' = false := by decide
  have htokens : tokens (qualifier ++ (w ++ rest))
      = .word ['s', 's'] :: .mark '.' :: .word w :: tokens rest := by
    have hqualifier : ∀ c ∈ ['s', 's'], isWord c = true :=
      List.forall_iff_forall_mem.mp (by decide)
    have hrun : tokens (['s', 's'] ++ '.' :: (w ++ rest))
        = .word ['s', 's'] :: tokens ('.' :: (w ++ rest)) :=
      tokens_run (List.cons_ne_nil _ _) hqualifier hmark
    rw [tokens_mark hmark, tokens_run hne hw hrest] at hrun
    exact hrun
  unfold mapWords at hword ⊢
  rw [tokens_run hne hw hrest] at hword
  rw [htokens, dropLibraryQualifiers]
  cases libraryWords.any (·.toList == w) with
  | true => rfl
  | false =>
      have hunknown : wordImage ['s', 's'] = ['s', 's'] := by decide
      have hdropped : dropLibraryQualifiers (.mark '.' :: .word w :: tokens rest)
          = .mark '.' :: dropLibraryQualifiers (.word w :: tokens rest) := rfl
      rw [← hword, Bool.and_false, hdropped]
      simp only [Bool.false_eq_true, if_false, List.flatMap_cons, Token.image, hunknown]
      rfl

theorem mapWords_head (head : Head) (hrest : rest.head?.any isWord = false)
    (hdot : rest.head? ≠ some '.') :
    mapWords (head.text ++ rest) = head.renamed ++ mapWords rest := by
  have hword := mapWords_word head.name_ne_nil head.isWord_of_mem_name hrest hdot
  have hqualified := mapWords_qualified head.name_ne_nil head.isWord_of_mem_name hrest hdot
  rw [wordImage_toList] at hword hqualified
  rw [libraryWords_any] at hqualified
  unfold Head.text Head.renamed
  cases head.isQualified with
  | false => exact hword
  | true =>
      simp only [if_true, Bool.true_and, List.append_assoc]
      rw [hqualified]
      cases unqualifiedNames.contains head.name <;> rfl

/-- What ends an expression is no part of a word. -/
theorem head?_of_endsExpression (h : endsExpression rest = true) :
    rest.head?.any isWord = false ∧ rest.head? ≠ some '.' ∧ rest.head? ≠ some '<' := by
  cases rest with
  | nil => exact ⟨rfl, by simp, by simp⟩
  | cons c rest =>
      have hmarks : ∀ c ∈ [',', '>', '['], isWord c = false ∧ c ≠ '.' ∧ c ≠ '<' :=
        List.forall_iff_forall_mem.mp (by decide)
      have hc : c ∈ [',', '>', '['] := by simpa [endsExpression, or_assoc] using h
      obtain ⟨hword, hdot, hopen⟩ := hmarks c hc
      exact ⟨hword, by simpa using hdot, by simpa using hopen⟩

/-- The words of heads are mapped in the first pass. -/
theorem mapWords_rewrites : RewritesHeads mapWords (fun _ => Head.text) (fun _ => Head.renamed) where
  mark := by
    have hmark : ∀ c ∈ ['<', '>', '[', ']', ',', ' '], isWord c = false :=
      List.forall_iff_forall_mem.mp (by decide)
    exact fun c hc rest => mapWords_mark (hmark c hc) rest
  plain := by
    intro head rest hrest
    obtain ⟨hword, hdot, -⟩ := head?_of_endsExpression hrest
    exact mapWords_head head hword hdot
  applied := by
    intro head rest
    have hbracket : isWord '<' = false := by decide
    have hhead : ('<' :: rest).head?.any isWord = false := hbracket
    rw [mapWords_head head hhead (by simp), mapWords_mark hbracket]

/-! ## The dictionaries among heads -/

/-- A piece without dictionaries is copied, if no word goes on behind it. -/
theorem mapDictionaries_copied {piece : List Char} (hnone : ¬ dictionary <:+: piece)
    (hword : rest.head?.any isWord = false) (hdot : rest.head? ≠ some '.') :
    mapDictionaries (piece ++ rest) = piece ++ mapDictionaries rest := by
  have hletters : ∀ name ∈ dictionaryNames, name.Forall fun c => isWord c = true ∨ c = '.' := by
    decide
  induction piece with
  | nil => rfl
  | cons c piece ih =>
      have hunnamed : afterDictionary? (c :: (piece ++ rest)) = none := by
        rw [afterDictionary?_eq_none_iff]
        intro name hname hpre
        rcases List.prefix_or_prefix_of_prefix hpre (List.prefix_append (c :: piece) rest) with
          hwithin | ⟨beyond, rfl⟩
        · exact hnone ((dictionary_suffix_of_mem hname).isInfix.trans hwithin.isInfix)
        · rw [← List.cons_append, List.prefix_append_right_inj] at hpre
          cases beyond with
          | nil =>
              rw [List.append_nil] at hname
              exact hnone (dictionary_suffix_of_mem hname).isInfix
          | cons d beyond =>
              -- the name would go on behind the piece
              obtain ⟨more, rfl⟩ := hpre
              have hd := List.forall_iff_forall_mem.mp (hletters _ hname) d
                (List.mem_append_right _ List.mem_cons_self)
              rcases hd with hd | rfl
              · rw [show isWord d = false from hword] at hd
                cases hd
              · exact hdot rfl
      have hlater : ¬ dictionary <:+: piece := fun hwithin =>
        hnone (hwithin.trans (List.suffix_cons c piece).isInfix)
      rw [List.cons_append, mapDictionaries_cons hunnamed, ih hlater, List.cons_append]

theorem afterDictionary?_of_endsExpression (h : endsExpression rest = true) :
    afterDictionary? rest = none := by
  cases rest with
  | nil => rfl
  | cons c rest =>
      simp only [endsExpression, List.head?_cons, Option.all_some, Bool.or_eq_true,
        beq_iff_eq] at h
      rcases h with (rfl | rfl) | rfl <;> rfl

namespace Head

variable {head : Head}

theorem renamed_mem_dictionaryNames (h : head.name ∈ dictionaryHeads) :
    head.renamed ∈ dictionaryNames := by
  have hall : ∀ isQualified : Bool, ∀ name ∈ dictionaryHeads,
      (if isQualified && !unqualifiedNames.contains name then qualifier else [])
        ++ (emittedName name).toList ∈ dictionaryNames := by
    decide
  exact hall head.isQualified head.name h

/-- No other head has a dictionary in it. -/
theorem dictionary_not_infix_renamed (h : head.name ∉ dictionaryHeads) :
    ¬ TypeText.dictionary <:+: head.renamed := by
  have hqualifier : Unseen TypeText.dictionary qualifier := by decide
  have hname : ¬ TypeText.dictionary <:+: (emittedName head.name).toList := by
    rw [← wordImage_toList]
    rcases wordImage_cases head.name.toList with ⟨-, hsame⟩ | ⟨entry, hentry, -, himage⟩
    · rw [hsame]
      exact fun hwithin => h (head.dictionary hwithin)
    · have hall : ∀ entry ∈ wordImages, ¬ TypeText.dictionary <:+: entry.2.toList := by decide
      rw [himage]
      exact hall entry hentry
  unfold renamed
  split
  · rwa [infix_append_of_unseen hqualifier]
  · exact hname

end Head

/-- Dictionaries are mapped in the later passes, and other heads left. -/
theorem mapDictionaries_rewrites :
    RewritesHeads mapDictionaries (fun _ => Head.renamed) Head.translated where
  mark := by
    intro c hc rest
    refine mapDictionaries_cons ?_
    simp only [List.mem_cons, List.not_mem_nil, or_false] at hc
    rcases hc with rfl | rfl | rfl | rfl | rfl | rfl <;> rfl
  plain := by
    intro head rest hrest
    obtain ⟨hword, hdot, hopen⟩ := head?_of_endsExpression hrest
    unfold Head.translated
    by_cases hdictionary : head.name ∈ dictionaryHeads
    · have hseen : startsPlain rest = false := by
        rw [startsPlain, afterDictionary?_of_endsExpression hrest]
        rfl
      rw [if_pos hdictionary]
      exact mapDictionaries_plain (Head.renamed_mem_dictionaryNames hdictionary) hopen hseen
    · rw [if_neg hdictionary]
      exact mapDictionaries_copied (Head.dictionary_not_infix_renamed hdictionary) hword hdot
  applied := by
    intro head rest
    unfold Head.translated
    by_cases hdictionary : head.name ∈ dictionaryHeads
    · rw [if_pos hdictionary]
      exact mapDictionaries_generic (Head.renamed_mem_dictionaryNames hdictionary) rest
    · have hbracket : isWord '<' = false := by decide
      have hhead : ('<' :: rest).head?.any isWord = false := hbracket
      have hmark : afterDictionary? ('<' :: rest) = none := rfl
      rw [if_neg hdictionary,
        mapDictionaries_copied (Head.dictionary_not_infix_renamed hdictionary) hhead (by simp),
        mapDictionaries_cons hmark]

/-! ## What stands before and behind an expression -/

/-- A keyword is a word and what follows it, which begins with a space. -/
theorem not_prefix_of_word {more : List Char} (hw : ∀ c ∈ w, isWord c = true)
    (h : (s.dropWhile isWord).head? ≠ some ' ') : ¬ w ++ ' ' :: more <+: s := by
  have hspace : isWord ' ' = false := by decide
  rintro ⟨later, rfl⟩
  rw [List.append_assoc, List.cons_append, dropWhile_append_cons hw hspace] at h
  exact h rfl

namespace Expression

variable (t : Expression Head)

/-- The word that an expression begins with has no space behind it. -/
theorem head?_dropWhile_text : (t.text.dropWhile isWord).head? ≠ some ' ' := by
  obtain ⟨-, head, rest, htext, hrest⟩ := t.exists_head_append fun _ => Head.text
  have hmark : rest.dropWhile isWord = rest := by
    cases rest with
    | nil => rfl
    | cons c rest =>
        have hmarks : ∀ c ∈ ['<', '['], isWord c = false :=
          List.forall_iff_forall_mem.mp (by decide)
        have hc := hmarks c (by simpa using hrest c rfl)
        exact List.dropWhile_cons_of_neg (by simp [hc])
  rw [Expression.text, htext, Head.text]
  split
  · have hqualifier : ∀ more, (qualifier ++ more).dropWhile isWord = '.' :: more := by
      have hs : isWord 's' = true := by decide
      have hdot : isWord '.' = false := by decide
      intro more
      have hcons : qualifier ++ more = 's' :: 's' :: '.' :: more := rfl
      rw [hcons, List.dropWhile_cons_of_pos hs, List.dropWhile_cons_of_pos hs,
        List.dropWhile_cons_of_neg (by simp [hdot])]
    rw [List.append_assoc, hqualifier]
    simp
  · rw [List.nil_append, List.dropWhile_append_of_pos head.isWord_of_mem_name, hmark]
    intro hspace
    rcases hrest ' ' hspace with h | h <;> cases h

/-- No modifier is at the head of an expression. -/
theorem modifier_not_begins : ∀ word ∈ modifiers, ¬ word.toList <+: t.text := by
  have hall : ∀ word ∈ modifiers,
      word.toList = word.toList.takeWhile isWord ++ ' ' :: (word.toList.dropWhile isWord).tail := by
    decide
  intro word hword
  rw [hall word hword]
  exact not_prefix_of_word (fun c hc => List.mem_takeWhile_imp hc) t.head?_dropWhile_text

/-- An expression is no delegate, nor is it one when its words are mapped. -/
theorem mapDelegate_mapWords_text : mapDelegate (mapWords t.text) = mapWords t.text := by
  refine mapDelegate_eq_self fun hdelegate => ?_
  have hkeyword : ∀ c ∈ "delegate".toList, isWord c = true :=
    List.forall_iff_forall_mem.mp (by decide)
  exact absurd (prefix_of_prefix_mapWords (by decide) hdelegate)
    (not_prefix_of_word hkeyword t.head?_dropWhile_text)

/-- An expression is mapped head by head. -/
theorem mapDictionaries_mapWords_text : mapDictionaries (mapWords t.text) = t.emitted := by
  have hwords := rewrite_render mapWords_rewrites t [] rfl
  have hdictionaries := rewrite_render mapDictionaries_rewrites t [] rfl
  have hnil : mapWords [] = [] := rfl
  have hnil' : mapDictionaries [] = [] := rfl
  rw [List.append_nil, hnil, List.append_nil] at hwords
  rw [List.append_nil, hnil', List.append_nil] at hdictionaries
  rw [Expression.text, hwords, hdictionaries, Expression.emitted]

/-- No character of an expression is a mark of an optional type, a reference or a union. -/
theorem unmarked_of_mem_text : ∀ c ∈ t.text, c ∉ ['?', '@', '|'] := by
  have hmarks : ∀ c ∈ ['<', '>', '[', ']', ',', ' '], c ∉ ['?', '@', '|'] :=
    List.forall_iff_forall_mem.mp (by decide)
  refine forall_mem_render hmarks (fun _ head c hc hmark => ?_) t
  have hother : ∀ c ∈ ['?', '@', '|'], isWord c = false ∧ c ∉ qualifier :=
    List.forall_iff_forall_mem.mp (by decide)
  obtain ⟨hword, hqualifier⟩ := hother c hmark
  rw [Head.text, List.mem_append] at hc
  rcases hc with hc | hc
  · split at hc
    · exact hqualifier hc
    · cases hc
  · rw [head.isWord_of_mem_name c hc] at hword
    cases hword

theorem text_ne_nil : t.text ≠ [] := by
  obtain ⟨-, head, rest, htext, -⟩ := t.exists_head_append fun _ => Head.text
  rw [Expression.text, htext]
  exact List.append_ne_nil_of_left_ne_nil head.text_ne_nil rest

/-- White space is at neither end of an expression. -/
theorem isBlank_ends_text :
    t.text.head?.any isBlank = false ∧ t.text.getLast?.any isBlank = false := by
  have hname (head : Head) : ∀ c ∈ head.text, isBlank c = false := by
    intro c hc
    rw [Head.text, List.mem_append] at hc
    rcases hc with hc | hc
    · have hqualifier : ∀ c ∈ qualifier, isBlank c = false :=
        List.forall_iff_forall_mem.mp (by decide)
      split at hc
      · exact hqualifier c hc
      · cases hc
    · exact isBlank_of_isNameChar (head.isNameChar_of_mem_name c hc)
  constructor
  · obtain ⟨-, head, rest, htext, -⟩ := t.exists_head_append fun _ => Head.text
    rw [Expression.text, htext]
    exact head?_append_of_none head.text_ne_nil (hname head) rest
  · have hends : EndsWithout isBlank t.text := by
      have hclosing : ∀ c ∈ ['>', ']'], isBlank c = false :=
        List.forall_iff_forall_mem.mp (by decide)
      cases t with
      | plain head => exact .of_none head.text_ne_nil (hname head)
      | applied head arguments =>
          have hlast : EndsWithout isBlank ['>'] :=
            .of_none (List.cons_ne_nil _ _) fun c hc => hclosing c (by simp_all)
          have harguments := (hlast.append (arguments.mapHeads fun _ => Head.text).render).append
            (head.text ++ ['<'])
          rwa [List.append_assoc] at harguments
      | array element =>
          have hlast : EndsWithout isBlank [']'] :=
            .of_none (List.cons_ne_nil _ _) fun c hc => hclosing c (by simp_all)
          exact (hlast.append ['[']).append _
    exact getLast?_any_eq_false_iff.mpr (.inr hends)

end Expression

/-! ## Keywords -/

theorem dropModifiersFrom_append (w s : List Char) :
    dropModifiersFrom w.length (w ++ s) = dropModifiersFrom 0 s := by
  induction w with
  | nil => rfl
  | cons c w ih => exact ih

/-- A modifier at the head of a text is dropped. -/
theorem dropModifiers_append {word : String} (hword : word ∈ modifiers) (s : List Char) :
    dropModifiers (word.toList ++ s) = dropModifiers s := by
  have hall : ∀ word ∈ modifiers, word.toList ≠ [] ∧
      ∀ other ∈ modifiers, other.toList <+: word.toList → other = word := by
    decide
  obtain ⟨hne, hown⟩ := hall word hword
  obtain ⟨c, letters, hletters⟩ := List.exists_cons_of_ne_nil hne
  have hfind : modifiers.find? (fun other => other.toList.isPrefixOf (c :: (letters ++ s)))
      = some word := by
    have hhere : word.toList <+: c :: (letters ++ s) := by
      rw [hletters]
      exact List.prefix_append (c :: letters) s
    have hsome : (modifiers.find? fun other => other.toList.isPrefixOf (c :: (letters ++ s))).isSome :=
      List.find?_isSome.mpr ⟨word, hword, List.isPrefixOf_iff_prefix.mpr hhere⟩
    obtain ⟨found, hfound⟩ := Option.isSome_iff_exists.mp hsome
    have hmem := List.mem_of_find?_eq_some hfound
    have hbegins : found.toList.isPrefixOf (c :: (letters ++ s)) = true := by
      have hfits := List.find?_some hfound
      exact hfits
    have hpre := List.isPrefixOf_iff_prefix.mp hbegins
    -- of two modifiers at one head one begins the other, so they are the same
    rcases List.prefix_or_prefix_of_prefix hpre hhere with hshort | hshort
    · rw [hfound, hown found hmem hshort]
    · rw [hfound, (hall found hmem).2 word hword hshort]
  rw [hletters, List.cons_append, dropModifiers, dropModifiersFrom, hfind]
  simp only [hletters, List.length_cons, Nat.add_sub_cancel]
  exact dropModifiersFrom_append letters s

theorem dropModifiers_flatMap {keywords : List String} (hkeywords : ∀ k ∈ keywords, k ∈ modifiers)
    (hs : ∀ word ∈ modifiers, ¬ word.toList <+: s) :
    dropModifiers (keywords.flatMap String.toList ++ s) = s := by
  induction keywords with
  | nil => exact dropModifiers_eq_self hs
  | cons word keywords ih =>
      rw [List.forall_mem_cons] at hkeywords
      rw [List.flatMap_cons, List.append_assoc, dropModifiers_append hkeywords.1, ih hkeywords.2]

/-! ## Absence -/

/-- A type that is emitted as it stands. A number or a date is one unless it is optional. -/
def Final (optional : Bool) (type : List Char) : Prop :=
  type ∈ ["any", "unknown", "boolean", "string", "void"].map String.toList ∨
    "[]".toList <:+ type ∨ "Array<".toList <+: type ∨ "Record<".toList <+: type ∨
    "TypeOption<".toList <+: type ∨
    (optional = false ∧ type ∈ ["number", "Date"].map String.toList)

instance (optional : Bool) (type : List Char) : Decidable (Final optional type) :=
  inferInstanceAs (Decidable (_ ∨ _))

theorem any_toList_iff {names : List String} {type : List Char} :
    (names.any fun name => name.toList == type) = true ↔ type ∈ names.map String.toList := by
  simp only [List.any_eq_true, beq_iff_eq, List.mem_map]

theorem isComplete_iff {optional : Bool} {type : List Char} :
    isComplete optional type = true ↔ Final optional type := by
  simp only [isComplete, Bool.or_eq_true, Bool.and_eq_true, Bool.not_eq_true', any_toList_iff,
    List.isSuffixOf_iff_suffix, List.isPrefixOf_iff_prefix, or_assoc]
  rfl

/-! ## Normalizing -/

namespace Expression

variable (t : Expression Head) {keywords : List String}

/-- The expression behind its keywords. -/
theorem unmarked_of_mem_front (hkeywords : ∀ k ∈ keywords, k ∈ modifiers) :
    ∀ c ∈ keywords.flatMap String.toList ++ t.text, c ∉ ['?', '@', '|'] := by
  have hall : ∀ word ∈ modifiers, word.toList.Forall (· ∉ ['?', '@', '|']) := by decide
  intro c hc
  rcases List.mem_append.mp hc with hkeyword | htext
  · obtain ⟨word, hword, hmem⟩ := List.mem_flatMap.mp hkeyword
    exact List.forall_iff_forall_mem.mp (hall word (hkeywords word hword)) c hmem
  · exact t.unmarked_of_mem_text c htext

theorem trim_front (hkeywords : ∀ k ∈ keywords, k ∈ modifiers) :
    trim (keywords.flatMap String.toList ++ t.text) = keywords.flatMap String.toList ++ t.text := by
  obtain ⟨hhead, hlast⟩ := t.isBlank_ends_text
  refine trim_eq_self ?_ ?_
  · cases keywords with
    | nil => exact hhead
    | cons word keywords =>
        have hall : ∀ word ∈ modifiers, word.toList ≠ [] ∧ word.toList.head?.any isBlank = false := by
          decide
        obtain ⟨hne, hword⟩ := hall word (hkeywords word List.mem_cons_self)
        rw [List.flatMap_cons, List.append_assoc, List.head?_append_of_ne_nil _ hne]
        exact hword
  · rw [List.getLast?_append_of_ne_nil _ t.text_ne_nil]
    exact hlast

variable (optional : Bool)

/-- The mark of an optional type is taken off, and nothing else. -/
theorem withoutMarks_written (hkeywords : ∀ k ∈ keywords, k ∈ modifiers) :
    withoutMarks (keywords.flatMap String.toList ++ t.text ++ if optional then ['?'] else [])
      = keywords.flatMap String.toList ++ t.text := by
  have hfront : (keywords.flatMap String.toList ++ t.text).filter (fun c => c != '?' && c != '@')
      = keywords.flatMap String.toList ++ t.text := by
    refine List.filter_eq_self.mpr fun c hc => ?_
    have hunmarked := t.unmarked_of_mem_front hkeywords c hc
    simp only [List.mem_cons, not_or] at hunmarked
    rw [Bool.and_eq_true, bne_iff_ne, bne_iff_ne]
    exact ⟨hunmarked.1, hunmarked.2.1⟩
  have hmark : (if optional then ['?'] else []).filter (fun c => c != '?' && c != '@') = [] := by
    cases optional <;> rfl
  rw [withoutMarks, List.filter_append, hfront, hmark, List.append_nil, t.trim_front hkeywords]

/-- A type expression behind keywords is mapped head by head. -/
theorem mapWhole_front (hkeywords : ∀ k ∈ keywords, k ∈ modifiers) :
    mapWhole (keywords.flatMap String.toList ++ t.text) = t.emitted := by
  rw [mapWhole, dropModifiers_flatMap hkeywords t.modifier_not_begins, t.mapDelegate_mapWords_text,
    t.mapDictionaries_mapWords_text]

theorem contains_written (hkeywords : ∀ k ∈ keywords, k ∈ modifiers) :
    (keywords.flatMap String.toList ++ t.text ++ if optional then ['?'] else []).contains '?'
      = optional := by
  have hfront : (keywords.flatMap String.toList ++ t.text).contains '?' = false := by
    rw [Bool.eq_false_iff, ne_eq, List.contains_iff_mem]
    exact fun hmem => t.unmarked_of_mem_front hkeywords '?' hmem (by simp)
  rw [List.contains_eq_any_beq] at hfront ⊢
  rw [List.any_append, hfront, Bool.false_or]
  cases optional <;> rfl

theorem absentSuffix_not_suffix_written (hkeywords : ∀ k ∈ keywords, k ∈ modifiers) :
    absentSuffix.isSuffixOf
      (keywords.flatMap String.toList ++ t.text ++ if optional then ['?'] else []) = false := by
  have hbar : '|' ∈ absentSuffix := by decide
  rw [Bool.eq_false_iff]
  intro hsuffix
  have hmem := (List.isSuffixOf_iff_suffix.mp hsuffix).subset hbar
  rcases List.mem_append.mp hmem with hfront | hmark
  · exact t.unmarked_of_mem_front hkeywords '|' hfront (by simp)
  · cases optional <;> simp at hmark

/-- **A type expression is normalized head by head.** Leading modifiers and the mark of an optional
type are dropped, each head is translated by itself, and the type is marked as possibly absent unless
it is emitted as it stands. -/
theorem normalize_written (hkeywords : ∀ k ∈ keywords, k ∈ modifiers) :
    normalize (t.written keywords optional)
      = String.ofList
          (if Final optional t.emitted then t.emitted else t.emitted ++ absentSuffix) := by
  have hfront : (keywords.flatMap String.toList ++ t.text).isEmpty = false := by
    rw [List.isEmpty_eq_false_iff]
    exact List.append_ne_nil_of_right_ne_nil _ t.text_ne_nil
  rw [normalize, written, String.toList_ofList, normalizeChars,
    t.absentSuffix_not_suffix_written optional hkeywords, t.withoutMarks_written optional hkeywords,
    t.contains_written optional hkeywords]
  simp only [hfront, t.mapWhole_front hkeywords, Bool.false_eq_true, if_false, isComplete_iff]

end Expression

/-- A list of dictionaries, optional and behind two modifiers: the qualifier is dropped before the list
and the dictionary, and stays before any other word. -/
theorem normalize_written_of_nested :
    (∀ k ∈ ["readonly ", "sealed override "], k ∈ modifiers) ∧
      normalize "readonly sealed override ss.IList<ss.JsDictionary<string, ss.bool[]>>?"
        = "Array<Record<string, ss.boolean[]>>" := by
  let t : Expression Head :=
    .applied ⟨true, "IList", by decide, by decide⟩
      (.last (.applied ⟨true, "JsDictionary", by decide, by decide⟩
        (.more (.plain ⟨false, "string", by decide, by decide⟩)
          (.last (.array (.plain ⟨true, "bool", by decide, by decide⟩))))))
  have hkeywords : ∀ k ∈ ["readonly ", "sealed override "], k ∈ modifiers := by decide
  have h := t.normalize_written true hkeywords
  exact ⟨hkeywords, h.trans (by decide)⟩

end ClassRecovery.TypeText
