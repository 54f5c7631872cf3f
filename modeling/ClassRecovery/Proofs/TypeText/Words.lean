import ClassRecovery.TypeText
import ClassRecovery.Proofs.Text.Blank
import ClassRecovery.Proofs.Text.Substitute
import Mathlib.Data.List.Infix
import Mathlib.Data.List.TakeWhile

/-!
# The words of a type text

A text is a sequence of runs of word characters and of marks between them, and most facts about it
go by induction over that sequence (`run_induction`). Mapping the words of a text is done run by run
(`mapWords_mark`, `mapWords_run`), leaves no word that would be mapped (`hasVocabulary_mapWords`),
and changes nothing where there is none (`mapWords_eq_self`).
-/

set_option autoImplicit false

namespace ClassRecovery.TypeText

open Text

/-! ## Runs of word characters -/

/-- A text is empty, or begins with a mark, or begins with a run of word characters. -/
@[elab_as_elim]
theorem run_induction {P : List Char → Prop} (nil : P [])
    (mark : ∀ c rest, isWord c = false → P rest → P (c :: rest))
    (run : ∀ w rest, w ≠ [] → (∀ c ∈ w, isWord c = true) → rest.head?.any isWord = false →
      P rest → P (w ++ rest))
    (s : List Char) : P s := by
  cases s with
  | nil => exact nil
  | cons c rest =>
      cases hc : isWord c with
      | false => exact mark c rest hc (run_induction nil mark run rest)
      | true =>
          have hrun : (c :: rest).takeWhile isWord ≠ [] := by
            rw [List.takeWhile_cons_of_pos hc]
            exact List.cons_ne_nil _ _
          have h := run _ _ hrun (fun d hd => List.mem_takeWhile_imp hd)
            (head?_dropWhile isWord (c :: rest))
            (run_induction nil mark run ((c :: rest).dropWhile isWord))
          rwa [List.takeWhile_append_dropWhile] at h
termination_by s.length
decreasing_by
  · simp
  · rw [List.dropWhile_cons_of_pos hc, List.length_cons]
    exact Nat.lt_succ_of_le (List.length_dropWhile_le _ _)

variable {w rest : List Char} {c : Char}

theorem tokens_mark (hc : isWord c = false) (rest : List Char) :
    tokens (c :: rest) = .mark c :: tokens rest := by
  rw [tokens, hc]
  rfl

/-- What does not begin with a word character has no word for its first token. -/
theorem tokens_ne_word_cons (hrest : rest.head?.any isWord = false) (letters : List Char)
    (more : List Token) : tokens rest ≠ .word letters :: more := by
  cases rest with
  | nil => exact (List.cons_ne_nil _ _).symm
  | cons c rest =>
      rw [tokens_mark hrest]
      intro h
      cases h

theorem tokens_run (hne : w ≠ []) (hw : ∀ c ∈ w, isWord c = true)
    (hrest : rest.head?.any isWord = false) : tokens (w ++ rest) = .word w :: tokens rest := by
  induction w with
  | nil => exact absurd rfl hne
  | cons c w ih =>
      have hc : isWord c = true := hw c List.mem_cons_self
      rw [List.cons_append, tokens, hc, if_pos rfl]
      cases w with
      | nil =>
          rw [List.nil_append]
          cases htokens : tokens rest with
          | nil => rfl
          | cons token more =>
              cases token with
              | mark => rfl
              | word letters => exact absurd htokens (tokens_ne_word_cons hrest letters more)
      | cons d w =>
          rw [ih (List.cons_ne_nil _ _) fun e he => hw e (List.mem_cons_of_mem _ he)]

/-! ## The vocabulary -/

/-- The word is emitted under another name. -/
def isVocabulary (letters : List Char) : Bool := wordImages.any fun entry => entry.1.toList == letters

/-- A word of the text is emitted under another name. -/
def hasVocabulary (s : List Char) : Bool :=
  (tokens s).any fun
    | .word letters => isVocabulary letters
    | .mark _ => false

theorem hasVocabulary_mark (hc : isWord c = false) (rest : List Char) :
    hasVocabulary (c :: rest) = hasVocabulary rest := by
  unfold hasVocabulary
  rw [tokens_mark hc, List.any_cons, Bool.false_or]

theorem hasVocabulary_run (hne : w ≠ []) (hw : ∀ c ∈ w, isWord c = true)
    (hrest : rest.head?.any isWord = false) :
    hasVocabulary (w ++ rest) = (isVocabulary w || hasVocabulary rest) := by
  unfold hasVocabulary
  rw [tokens_run hne hw hrest, List.any_cons]

/-- The words of two texts, the second of which does not go on with a word of the first. -/
theorem hasVocabulary_append {s t : List Char} (ht : t.head?.any isWord = false) :
    hasVocabulary (s ++ t) = (hasVocabulary s || hasVocabulary t) := by
  induction s using run_induction with
  | nil => rfl
  | mark c rest hc ih => rw [List.cons_append, hasVocabulary_mark hc, hasVocabulary_mark hc, ih]
  | run w rest hne hw hrest ih =>
      have hlater : (rest ++ t).head?.any isWord = false := by
        cases rest with
        | nil => exact ht
        | cons d rest => exact hrest
      rw [List.append_assoc, hasVocabulary_run hne hw hlater, hasVocabulary_run hne hw hrest, ih,
        Bool.or_assoc]

/-- A word is emitted as it is, or the vocabulary has it. -/
theorem wordImage_cases (letters : List Char) :
    (isVocabulary letters = false ∧ wordImage letters = letters) ∨
      ∃ entry ∈ wordImages, letters = entry.1.toList ∧ wordImage letters = entry.2.toList := by
  unfold wordImage isVocabulary
  cases hfind : wordImages.find? fun entry => entry.1.toList == letters with
  | none =>
      have hnone := List.find?_eq_none.mp hfind
      exact .inl ⟨List.any_eq_false.mpr hnone, rfl⟩
  | some entry =>
      have hname : entry.1.toList = letters := by simpa using List.find?_some hfind
      exact .inr ⟨entry, List.mem_of_find?_eq_some hfind, hname.symm, rfl⟩

/-! ## Mapping run by run -/

theorem mapWords_mark (hc : isWord c = false) (rest : List Char) :
    mapWords (c :: rest) = c :: mapWords rest := by
  unfold mapWords
  rw [tokens_mark hc]
  rfl

/-- A text that begins with a mark begins with the same one when it is mapped. -/
theorem head?_mapWords_of_mark (hrest : rest.head?.any isWord = false) :
    (mapWords rest).head? = rest.head? := by
  cases rest with
  | nil => rfl
  | cons c rest => rw [mapWords_mark hrest]; rfl

/-- A word is kept, or it is the qualifier of a library word and goes with the mark behind it. -/
theorem dropLibraryQualifiers_word (letters : List Char) (more : List Token) :
    dropLibraryQualifiers (.word letters :: more) = .word letters :: dropLibraryQualifiers more ∨
      ∃ library later, letters = ['s', 's'] ∧ more = .mark '.' :: .word library :: later ∧
        libraryWords.any (·.toList == library) = true ∧
        dropLibraryQualifiers (.word letters :: more)
          = .word library :: dropLibraryQualifiers later := by
  match more with
  | [] | .word _ :: _ => exact .inl rfl
  | .mark mark :: [] | .mark mark :: .mark _ :: _ =>
      exact .inl (by simp [dropLibraryQualifiers])
  | .mark mark :: .word library :: later =>
      by_cases hmark : mark = '.'
      · subst hmark
        by_cases hqualified :
            (letters == ['s', 's'] && libraryWords.any (·.toList == library)) = true
        · have hdropped : dropLibraryQualifiers
              (.word letters :: .mark '.' :: .word library :: later)
                = .word library :: dropLibraryQualifiers later := by
            rw [dropLibraryQualifiers, if_pos hqualified]
          rw [Bool.and_eq_true, beq_iff_eq] at hqualified
          exact .inr ⟨library, later, hqualified.1, rfl, hqualified.2, hdropped⟩
        · exact .inl (by rw [dropLibraryQualifiers, if_neg hqualified])
      · exact .inl (by simp [dropLibraryQualifiers, hmark])

/-- A text whose first token is a mark begins with that mark. -/
theorem exists_mark_of_tokens {s : List Char} {more : List Token}
    (h : tokens s = .mark c :: more) : ∃ rest, s = c :: rest ∧ tokens rest = more := by
  cases s using run_induction with
  | nil => cases h
  | mark d rest hd _ =>
      rw [tokens_mark hd] at h
      cases h
      exact ⟨rest, rfl, rfl⟩
  | run w rest hne hw hrest _ =>
      rw [tokens_run hne hw hrest] at h
      cases h

/-- How a run of word characters is mapped together with what follows it. -/
inductive MappedRun (w rest : List Char) : Prop
  | kept (fixed : isVocabulary w = false) (mapped : mapWords (w ++ rest) = w ++ mapWords rest)
  | renamed {entry : String × String} (mem : entry ∈ wordImages) (name : w = entry.1.toList)
      (mapped : mapWords (w ++ rest) = entry.2.toList ++ mapWords rest)
  /-- The qualifier of a library word goes with the mark behind it. -/
  | qualified {entry : String × String} {later : List Char} (mem : entry ∈ wordImages)
      (qualifier : w = ['s', 's']) (known : hasVocabulary rest = true)
      (mapped : mapWords (w ++ rest) = entry.2.toList ++ later)
      (unqualified : mapWords rest = '.' :: (entry.2.toList ++ later))

theorem mapWords_run (hne : w ≠ []) (hw : ∀ c ∈ w, isWord c = true)
    (hrest : rest.head?.any isWord = false) : MappedRun w rest := by
  have hmapped (s : List Char) :
      mapWords s = (dropLibraryQualifiers (tokens s)).flatMap Token.image := rfl
  rcases dropLibraryQualifiers_word w (tokens rest) with
    hkept | ⟨library, later, hqualifier, htokens, hlibrary, hdropped⟩
  · have himage : mapWords (w ++ rest) = wordImage w ++ mapWords rest := by
      rw [hmapped, tokens_run hne hw hrest, hkept]
      rfl
    rcases wordImage_cases w with ⟨hfixed, hsame⟩ | ⟨entry, hentry, hname, hrenamed⟩
    · exact .kept hfixed (by rw [himage, hsame])
    · exact .renamed hentry hname (by rw [himage, hrenamed])
  · obtain ⟨afterMark, rfl, hafter⟩ := exists_mark_of_tokens htokens
    have hknown : isVocabulary library = true := by
      obtain ⟨name, hname, heq⟩ := List.any_eq_true.mp hlibrary
      have hall : ∀ name ∈ libraryWords, isVocabulary name.toList = true := by decide
      rw [← beq_iff_eq.mp heq]
      exact hall name hname
    obtain ⟨entry, hentry, himage⟩ : ∃ entry ∈ wordImages, wordImage library = entry.2.toList := by
      rcases wordImage_cases library with ⟨hfixed, -⟩ | ⟨entry, hentry, -, himage⟩
      · rw [hknown] at hfixed
        cases hfixed
      · exact ⟨entry, hentry, himage⟩
    have hword : dropLibraryQualifiers (.word library :: later)
        = .word library :: dropLibraryQualifiers later := by
      rcases dropLibraryQualifiers_word library later with hkept | ⟨_, _, hagain, -⟩
      · exact hkept
      · -- the qualifier is no library word itself
        subst hagain
        exact absurd hlibrary (by decide)
    have hlater : (dropLibraryQualifiers (.word library :: later)).flatMap Token.image
        = entry.2.toList ++ (dropLibraryQualifiers later).flatMap Token.image := by
      rw [hword, List.flatMap_cons, Token.image, himage]
    have hmore : hasVocabulary ('.' :: afterMark) = true := by
      unfold hasVocabulary
      rw [htokens]
      simp only [List.any_cons, hknown, Bool.true_or, Bool.or_true]
    have hmapped' : mapWords (w ++ '.' :: afterMark)
        = entry.2.toList ++ (dropLibraryQualifiers later).flatMap Token.image := by
      rw [hmapped, tokens_run hne hw hrest, hdropped, ← hword, hlater]
    have hunqualified : mapWords ('.' :: afterMark)
        = '.' :: (entry.2.toList ++ (dropLibraryQualifiers later).flatMap Token.image) := by
      rw [mapWords_mark (by decide), hmapped, hafter, hlater]
    exact .qualified hentry hqualifier hmore hmapped' hunqualified

/-! ## Texts without words of the vocabulary -/

theorem hasVocabulary_image {entry : String × String} (h : entry ∈ wordImages) :
    hasVocabulary entry.2.toList = false := by
  have hall : ∀ entry ∈ wordImages, hasVocabulary entry.2.toList = false := by decide
  exact hall entry h

/-- A mapped text has no word that would be mapped. -/
theorem hasVocabulary_mapWords (s : List Char) : hasVocabulary (mapWords s) = false := by
  induction s using run_induction with
  | nil => rfl
  | mark c rest hc ih => rw [mapWords_mark hc, hasVocabulary_mark hc, ih]
  | run w rest hne hw hrest ih =>
      have hhead : (mapWords rest).head?.any isWord = false := by
        rwa [head?_mapWords_of_mark hrest]
      cases mapWords_run hne hw hrest with
      | kept hfixed hmapped =>
          rw [hmapped, hasVocabulary_run hne hw hhead, hfixed, ih]
          rfl
      | renamed hentry _ hmapped =>
          rw [hmapped, hasVocabulary_append hhead, hasVocabulary_image hentry, ih]
          rfl
      | qualified _ _ _ hmapped hmore =>
          rw [hmore, hasVocabulary_mark (by decide)] at ih
          rw [hmapped, ih]

theorem isVocabulary_of_mem {entry : String × String} (h : entry ∈ wordImages) :
    isVocabulary entry.1.toList = true :=
  List.any_eq_true.mpr ⟨entry, h, beq_self_eq_true _⟩

/-- A text in which no word would be mapped stays as it is. -/
theorem mapWords_eq_self {s : List Char} (h : hasVocabulary s = false) : mapWords s = s := by
  induction s using run_induction with
  | nil => rfl
  | mark c rest hc ih =>
      rw [hasVocabulary_mark hc] at h
      rw [mapWords_mark hc, ih h]
  | run w rest hne hw hrest ih =>
      rw [hasVocabulary_run hne hw hrest, Bool.or_eq_false_iff] at h
      cases mapWords_run hne hw hrest with
      | kept _ hmapped => rw [hmapped, ih h.2]
      | renamed hentry hname _ =>
          rw [hname, isVocabulary_of_mem hentry] at h
          cases h.1
      | qualified _ _ hknown _ _ =>
          rw [hknown] at h
          cases h.2

theorem mapWords_eq_self_iff {s : List Char} : mapWords s = s ↔ hasVocabulary s = false := by
  constructor
  · intro h
    rw [← h]
    exact hasVocabulary_mapWords s
  · exact mapWords_eq_self

/-! ## What the mapping keeps -/

/-- A property that no character has of the vocabulary or of its qualifier. -/
structure Foreign (q : Char → Bool) : Prop where
  qualifier : ∀ c ∈ ['s', 's', '.'], q c = false
  name : ∀ entry ∈ wordImages, ∀ c ∈ entry.1.toList, q c = false
  image : ∀ entry ∈ wordImages, ∀ c ∈ entry.2.toList, q c = false

variable {q : Char → Bool}

theorem not_of_any {s : List Char} (h : s.any q = false) : ∀ c ∈ s, q c = false :=
  fun c hc => Bool.eq_false_iff.mpr (List.any_eq_false.mp h c hc)

/-- That a property is foreign can be tested on the vocabulary. -/
theorem Foreign.of_any (hqualifier : ['s', 's', '.'].any q = false)
    (hwords : (wordImages.any fun entry => entry.1.toList.any q || entry.2.toList.any q) = false) :
    Foreign q := by
  have hentry : ∀ entry ∈ wordImages,
      entry.1.toList.any q = false ∧ entry.2.toList.any q = false := by
    intro entry hmem
    exact Bool.or_eq_false_iff.mp (Bool.eq_false_iff.mpr (List.any_eq_false.mp hwords entry hmem))
  exact ⟨not_of_any hqualifier, fun entry h => not_of_any (hentry entry h).1,
    fun entry h => not_of_any (hentry entry h).2⟩

theorem filter_append_of_none {v : List Char} (hv : ∀ c ∈ v, q c = false) (s : List Char) :
    (v ++ s).filter q = s.filter q := by
  have hnil : v.filter q = [] := List.filter_eq_nil_iff.mpr fun c hc => by simp [hv c hc]
  rw [List.filter_append, hnil, List.nil_append]

theorem head?_append_of_none {v : List Char} (hne : v ≠ []) (hv : ∀ c ∈ v, q c = false)
    (s : List Char) : (v ++ s).head?.any q = false := by
  obtain ⟨c, v, rfl⟩ := List.exists_cons_of_ne_nil hne
  exact hv c List.mem_cons_self

theorem wordImages_ne_nil {entry : String × String} (h : entry ∈ wordImages) :
    entry.1.toList ≠ [] ∧ entry.2.toList ≠ [] := by
  have hall : ∀ entry ∈ wordImages, entry.1.toList ≠ [] ∧ entry.2.toList ≠ [] := by decide
  exact hall entry h

/-- The foreign characters stay, in their order. -/
theorem filter_mapWords (hq : Foreign q) (s : List Char) :
    (mapWords s).filter q = s.filter q := by
  induction s using run_induction with
  | nil => rfl
  | mark c rest hc ih => rw [mapWords_mark hc, List.filter_cons, List.filter_cons, ih]
  | run w rest hne hw hrest ih =>
      cases mapWords_run hne hw hrest with
      | kept _ hmapped => rw [hmapped, List.filter_append, List.filter_append, ih]
      | renamed hentry hname hmapped =>
          rw [hmapped, hname, filter_append_of_none (hq.name _ hentry),
            filter_append_of_none (hq.image _ hentry), ih]
      | qualified hentry hqualified _ hmapped hmore =>
          have himage := filter_append_of_none (hq.image _ hentry)
          have hmark : q '.' = false := hq.qualifier '.' (by simp)
          rw [hmore, List.filter_cons_of_neg (by simp [hmark]), himage] at ih
          rw [hmapped, himage, ih, hqualified]
          exact (filter_append_of_none (fun c hc => hq.qualifier c (by simp_all)) rest).symm

/-- The first character is as foreign as before. -/
theorem head?_mapWords (hq : Foreign q) (s : List Char) :
    (mapWords s).head?.any q = s.head?.any q := by
  induction s using run_induction with
  | nil => rfl
  | mark c rest hc _ => rw [mapWords_mark hc]; rfl
  | run w rest hne hw hrest _ =>
      cases mapWords_run hne hw hrest with
      | kept _ hmapped =>
          rw [hmapped, List.head?_append_of_ne_nil w hne, List.head?_append_of_ne_nil w hne]
      | renamed hentry hname hmapped =>
          rw [hmapped, head?_append_of_none (wordImages_ne_nil hentry).2 (hq.image _ hentry), hname,
            head?_append_of_none (wordImages_ne_nil hentry).1 (hq.name _ hentry)]
      | qualified hentry hqualified _ hmapped _ =>
          rw [hmapped, head?_append_of_none (wordImages_ne_nil hentry).2 (hq.image _ hentry),
            hqualified]
          exact (hq.qualifier 's' (by simp)).symm

/-- The last character of the text is there, and it has not the property. -/
def EndsWithout (q : Char → Bool) (s : List Char) : Prop := ∃ c, s.getLast? = some c ∧ q c = false

namespace EndsWithout

variable {s t v : List Char}

theorem append (h : EndsWithout q t) (s : List Char) : EndsWithout q (s ++ t) := by
  obtain ⟨c, hlast, hc⟩ := h
  exact ⟨c, by rw [List.getLast?_append, hlast, Option.some_or], hc⟩

theorem of_none (hne : v ≠ []) (hv : ∀ c ∈ v, q c = false) : EndsWithout q v :=
  ⟨v.getLast hne, List.getLast?_eq_some_getLast hne, hv _ (List.getLast_mem hne)⟩

/-- Whatever follows something is the end. -/
theorem of_append (h : EndsWithout q (s ++ t)) (hne : t ≠ []) : EndsWithout q t := by
  obtain ⟨c, hlast, hc⟩ := h
  rw [List.getLast?_append_of_ne_nil s hne] at hlast
  exact ⟨c, hlast, hc⟩

end EndsWithout

/-- What ends with no foreign character ends with none when it is mapped. -/
theorem endsWithout_mapWords (hq : Foreign q) {s : List Char} (h : EndsWithout q s) :
    EndsWithout q (mapWords s) := by
  have himage {entry : String × String} (hentry : entry ∈ wordImages) :
      EndsWithout q entry.2.toList := .of_none (wordImages_ne_nil hentry).2 (hq.image _ hentry)
  induction s using run_induction with
  | nil => exact h
  | mark c rest hc ih =>
      rw [mapWords_mark hc]
      cases rest with
      | nil => exact h
      | cons d rest => exact (ih (h.of_append (s := [c]) (List.cons_ne_nil _ _))).append [c]
  | run w rest hne hw hrest ih =>
      cases mapWords_run hne hw hrest with
      | kept _ hmapped =>
          rw [hmapped]
          cases rest with
          | nil => exact h
          | cons d rest => exact (ih (h.of_append (List.cons_ne_nil _ _))).append w
      | renamed hentry _ hmapped =>
          rw [hmapped]
          cases rest with
          | nil =>
              rw [show mapWords [] = [] from rfl, List.append_nil]
              exact himage hentry
          | cons d rest => exact (ih (h.of_append (List.cons_ne_nil _ _))).append _
      | qualified hentry _ hknown hmapped hmore =>
          have hrestne : rest ≠ [] := by
            rintro rfl
            cases hknown
          have hlater := ih (h.of_append hrestne)
          rw [hmore] at hlater
          rw [hmapped]
          exact hlater.of_append (s := ['.'])
            (List.append_ne_nil_of_left_ne_nil (wordImages_ne_nil hentry).2 _)

/-- What a mapped text begins with it has begun with before, if no emitted word is seen in it. -/
theorem prefix_of_prefix_mapWords {piece s : List Char}
    (hunseen : ∀ entry ∈ wordImages, Unseen entry.2.toList piece) (h : piece <+: mapWords s) :
    piece <+: s := by
  induction s using run_induction generalizing piece with
  | nil => exact h
  | mark c rest hc ih =>
      rw [mapWords_mark hc] at h
      refine prefix_cons_of_later h fun later hpiece hlater => ih ?_ hlater
      subst hpiece
      exact fun entry hentry => (hunseen entry hentry).tail
  | run w rest hne hw hrest ih =>
      cases mapWords_run hne hw hrest with
      | kept _ hmapped =>
          rw [hmapped] at h
          rcases List.prefix_or_prefix_of_prefix h (List.prefix_append w _) with hwithin | hbeyond
          · exact hwithin.trans (List.prefix_append w rest)
          · obtain ⟨beyond, rfl⟩ := hbeyond
            rw [List.prefix_append_right_inj] at h ⊢
            exact ih (fun entry hentry => (hunseen entry hentry).right) h
      | renamed hentry _ hmapped =>
          rw [hmapped] at h
          rw [(hunseen _ hentry).eq_nil h]
          exact List.nil_prefix
      | qualified hentry _ _ hmapped _ =>
          rw [hmapped] at h
          rw [(hunseen _ hentry).eq_nil h]
          exact List.nil_prefix

end ClassRecovery.TypeText
