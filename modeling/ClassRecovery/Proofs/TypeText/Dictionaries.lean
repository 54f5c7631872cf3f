import ClassRecovery.Proofs.TypeText.Words

/-!
# Dictionaries in a type text

Dictionaries are mapped in three passes, which differ only in what they make of the text behind the
name (`Reading`). `Mapped s t` describes the three of them together as one pass from left to right,
and what the passes keep, and what they leave to map, goes by induction over it.

A dictionary is followed by what its image is followed by, but the image ends with a mark and the
name ends with a letter. So a word of the vocabulary behind the name becomes a word of the text, and
of two names in a row the second is not seen by the pass that maps the first: these two are what is
left to map in a mapped text (`dictionary_infix_iff`, `hasVocabulary_mapped`).
-/

set_option autoImplicit false

namespace ClassRecovery.TypeText

open Text

/-! ## Names -/

/-- What every name of a dictionary ends with. -/
def dictionary : List Char := "Dictionary".toList

/-- The names of dictionaries. -/
def dictionaryNames : List (List Char) :=
  ["ss.JsDictionary".toList, "ss.Dictionary".toList, "JsDictionary".toList, dictionary]

variable {s t rest name piece : List Char} {c : Char}

/-- An optional piece at the head of a text was there or was not. -/
theorem eq_or_eq_append_of_getD (h : (piece.isPrefixOf? s).getD s = t) :
    s = t ∨ s = piece ++ t := by
  cases hpiece : piece.isPrefixOf? s with
  | none =>
      rw [hpiece] at h
      exact .inl h
  | some more =>
      rw [hpiece] at h
      have hmore : more = t := h
      rw [← hmore]
      exact .inr (List.isPrefixOf?_eq_some_iff_append_eq.mp hpiece).symm

theorem afterDictionary?_append (hname : name ∈ dictionaryNames) (rest : List Char) :
    afterDictionary? (name ++ rest) = some rest := by
  simp only [dictionaryNames, List.mem_cons, List.not_mem_nil, or_false] at hname
  rcases hname with rfl | rfl | rfl | rfl <;> rfl

theorem afterDictionary?_eq_some_iff :
    afterDictionary? s = some rest ↔ ∃ name ∈ dictionaryNames, s = name ++ rest := by
  constructor
  · intro h
    unfold afterDictionary? at h
    dsimp only at h
    generalize hunqualified : ("ss.".toList.isPrefixOf? s).getD s = unqualified at h
    generalize hplain : ("Js".toList.isPrefixOf? unqualified).getD unqualified = plain at h
    have hdictionary : plain = dictionary ++ rest :=
      (List.isPrefixOf?_eq_some_iff_append_eq.mp h).symm
    rcases eq_or_eq_append_of_getD hunqualified with rfl | rfl <;>
      rcases eq_or_eq_append_of_getD hplain with rfl | rfl <;> rw [hdictionary]
    · exact ⟨dictionary, by simp [dictionaryNames], rfl⟩
    · exact ⟨"JsDictionary".toList, by simp [dictionaryNames], rfl⟩
    · exact ⟨"ss.Dictionary".toList, by simp [dictionaryNames], rfl⟩
    · exact ⟨"ss.JsDictionary".toList, by simp [dictionaryNames], rfl⟩
  · rintro ⟨name, hname, rfl⟩
    exact afterDictionary?_append hname rest

/-- No name begins a text exactly when nothing is found behind one. -/
theorem afterDictionary?_eq_none_iff :
    afterDictionary? s = none ↔ ∀ name ∈ dictionaryNames, ¬ name <+: s := by
  constructor
  · rintro h name hname ⟨rest, rfl⟩
    rw [afterDictionary?_append hname] at h
    cases h
  · intro h
    rw [Option.eq_none_iff_forall_ne_some]
    intro rest hrest
    obtain ⟨name, hname, rfl⟩ := afterDictionary?_eq_some_iff.mp hrest
    exact h name hname (List.prefix_append name rest)

/-- No name of a dictionary is seen in the piece. -/
def Unnamed (piece : List Char) : Prop := ∀ name ∈ dictionaryNames, Unseen name piece

instance (piece : List Char) : Decidable (Unnamed piece) :=
  inferInstanceAs (Decidable (∀ name ∈ dictionaryNames, Unseen name piece))

theorem Unnamed.afterDictionary? (h : Unnamed piece) (hne : piece ≠ []) (rest : List Char) :
    TypeText.afterDictionary? (piece ++ rest) = none :=
  afterDictionary?_eq_none_iff.mpr fun name hname => (h name hname).not_begins hne rest

/-- A part of a name, up to its end, is a name, or no name is seen at its head. -/
theorem afterDictionary?_of_suffix (hname : name ∈ dictionaryNames) {tail : List Char}
    (htail : tail <:+ name) (hne : tail ≠ []) (rest : List Char) :
    TypeText.afterDictionary? (tail ++ rest) = some rest ∨
      TypeText.afterDictionary? (tail ++ rest) = none := by
  have hall : ∀ name ∈ dictionaryNames, ∀ tail ∈ name.tails, tail ≠ [] →
      tail ∈ dictionaryNames ∨ ∀ other ∈ dictionaryNames, ¬ other <+: tail ∧ ¬ tail <+: other := by
    decide
  rcases hall name hname tail ((List.mem_tails _ _).mpr htail) hne with hown | hother
  · exact .inl (afterDictionary?_append hown rest)
  · refine .inr (afterDictionary?_eq_none_iff.mpr fun other hmem hpre => ?_)
    obtain ⟨hnot, hnot'⟩ := hother other hmem
    rcases List.prefix_or_prefix_of_prefix hpre (List.prefix_append tail rest) with h | h
    · exact hnot h
    · exact hnot' h

/-! ## One pass -/

/-- What a pass makes of the text behind a name: what it emits for the name and what it takes along,
and what it goes on with. -/
abbrev Reading := List Char → Option (List Char × List Char)

/-- A dictionary that opens its type arguments. -/
def typeArguments : Reading
  | '<' :: rest => some ("Record<".toList, rest)
  | _ => none

theorem typeArguments_eq_none (hc : c ≠ '<') (rest : List Char) :
    typeArguments (c :: rest) = none := by
  simp [typeArguments, hc]

/-- A dictionary at the end of the text. -/
def endOfText : Reading
  | [] => some (plainRecord, [])
  | _ => none

/-- A dictionary before any character but `<`. -/
def anyCharacter : Reading
  | c :: rest => if c = '<' then none else some (plainRecord ++ [c], rest)
  | [] => none

/-- The matcher of a pass. -/
def readingRule (reading : Reading) (_before : Option Char) (s : List Char) :
    Option (Nat × List Char) :=
  (afterDictionary? s).bind fun after =>
    (reading after).map fun (image, rest) => (s.length - rest.length, image)

/-- One pass over a text. -/
def pass (reading : Reading) (s : List Char) : List Char := substitute (readingRule reading) s

/-- The first two passes. -/
def earlyPasses (s : List Char) : List Char := pass endOfText (pass typeArguments s)

/-- The passes, one after the other. -/
theorem mapDictionaries_eq (s : List Char) :
    mapDictionaries s = pass anyCharacter (earlyPasses s) := by
  have hgeneric : genericDictionaryRule = readingRule typeArguments := by
    funext before s
    unfold genericDictionaryRule readingRule typeArguments
    cases afterDictionary? s with
    | none => rfl
    | some after =>
        cases after with
        | nil => rfl
        | cons c rest =>
            by_cases hc : c = '<'
            · subst hc
              rfl
            · simp [hc]
  have hlast : lastDictionaryRule = readingRule endOfText := by
    funext before s
    unfold lastDictionaryRule readingRule endOfText
    cases afterDictionary? s with
    | none => rfl
    | some after => cases after <;> rfl
  have hinner : innerDictionaryRule = readingRule anyCharacter := by
    funext before s
    unfold innerDictionaryRule readingRule anyCharacter
    cases afterDictionary? s with
    | none => rfl
    | some after =>
        cases after with
        | nil => rfl
        | cons c rest =>
            by_cases hc : c = '<'
            · simp [hc]
            · simp [hc]
  rw [mapDictionaries, hgeneric, hlast, hinner]
  rfl

/-- What the image of a dictionary begins with. -/
def opening : List Char := "Record<".toList

/-- A pass goes on with a part of what it has seen, and the image it emits is a record. -/
structure Reading.Sound (reading : Reading) : Prop where
  takes {after rest image : List Char} (h : reading after = some (image, rest)) : rest <:+ after
  record {after rest image : List Char} (h : reading after = some (image, rest)) : opening <+: image

theorem typeArguments_sound : Reading.Sound typeArguments where
  takes := by
    intro after rest image h
    unfold typeArguments at h
    split at h
    · cases h
      exact List.suffix_cons _ _
    · cases h
  record := by
    intro after rest image h
    unfold typeArguments at h
    split at h
    · cases h
      exact List.prefix_rfl
    · cases h

theorem endOfText_sound : Reading.Sound endOfText where
  takes := by
    intro after rest image h
    unfold endOfText at h
    split at h
    · cases h
      exact List.suffix_rfl
    · cases h
  record := by
    intro after rest image h
    unfold endOfText at h
    split at h
    · cases h
      decide
    · cases h

section Pass

variable {reading : Reading} {image more : List Char}

theorem readingRule_blind (reading : Reading) : Blind (readingRule reading) := fun _ _ _ => rfl

theorem readingRule_eq_some {before : Option Char} {taken : Nat}
    (h : readingRule reading before s = some (taken, image)) :
    ∃ name ∈ dictionaryNames, ∃ after rest, s = name ++ after ∧ reading after = some (image, rest) ∧
      taken = s.length - rest.length := by
  obtain ⟨after, hafter, h⟩ := Option.bind_eq_some_iff.mp h
  obtain ⟨⟨image', rest⟩, hread, heq⟩ := Option.map_eq_some_iff.mp h
  obtain ⟨name, hname, rfl⟩ := afterDictionary?_eq_some_iff.mp hafter
  cases heq
  exact ⟨name, hname, after, rest, rfl, hread, rfl⟩

theorem ne_nil_of_mem_names (h : name ∈ dictionaryNames) : name ≠ [] := by
  have hall : ∀ name ∈ dictionaryNames, name ≠ [] := by decide
  exact hall name h

theorem readingRule_takesSome (hsound : reading.Sound) : TakesSome (readingRule reading) := by
  intro before s taken image h
  obtain ⟨name, hname, after, rest, rfl, hread, rfl⟩ := readingRule_eq_some h
  have hlength := (hsound.takes hread).length_le
  have hpos := List.length_pos_of_ne_nil (ne_nil_of_mem_names hname)
  rw [List.length_append]
  omega

/-- A character is copied, unless a dictionary begins there that the pass reads. -/
theorem pass_cons
    (h : ∀ after, afterDictionary? (c :: rest) = some after → reading after = none) :
    pass reading (c :: rest) = c :: pass reading rest := by
  refine substitute_cons (readingRule_blind reading) ?_
  unfold readingRule
  cases hafter : afterDictionary? (c :: rest) with
  | none => rfl
  | some after => rw [Option.bind_some, h after hafter, Option.map_none]

theorem pass_cons_of_none (reading : Reading) (h : afterDictionary? (c :: rest) = none) :
    pass reading (c :: rest) = c :: pass reading rest := by
  refine pass_cons fun after hafter => ?_
  rw [h] at hafter
  cases hafter

theorem pass_unnamed (reading : Reading) (hpiece : Unnamed piece) (rest : List Char) :
    pass reading (piece ++ rest) = piece ++ pass reading rest := by
  refine substitute_append_of_none (readingRule_blind reading) ?_
  rintro tail ⟨front, rfl⟩ hne
  have htail : Unnamed tail := fun name hname => (hpiece name hname).right
  rw [readingRule, htail.afterDictionary? hne, Option.bind_none]

/-- A name is copied where the pass does not read it. -/
theorem pass_unread (reading : Reading) (hname : name ∈ dictionaryNames) (hrest : reading rest = none) :
    pass reading (name ++ rest) = name ++ pass reading rest := by
  refine substitute_append_of_none (readingRule_blind reading) ?_
  intro tail htail hne
  rcases afterDictionary?_of_suffix hname htail hne rest with h | h
  · rw [readingRule, h, Option.bind_some, hrest, Option.map_none]
  · rw [readingRule, h, Option.bind_none]

/-- Where the pass reads it, the image stands for the name and what is taken along. -/
theorem pass_read (hname : name ∈ dictionaryNames)
    (hread : reading (more ++ rest) = some (image, rest)) :
    pass reading (name ++ (more ++ rest)) = image ++ pass reading rest := by
  rw [← List.append_assoc]
  refine substitute_append (readingRule_blind reading)
    (List.append_ne_nil_of_left_ne_nil (ne_nil_of_mem_names hname) more) ?_
  have hlength : (name ++ (more ++ rest)).length - rest.length = (name ++ more).length := by
    simp only [List.length_append]
    omega
  rw [readingRule, List.append_assoc, afterDictionary?_append hname, Option.bind_some, hread]
  exact congrArg (fun taken => some (taken, image)) hlength

theorem prefix_of_prefix_pass (hsound : reading.Sound) (hpiece : Unseen opening piece)
    (h : piece <+: pass reading s) : piece <+: s := by
  refine (substitute_rewritten (readingRule_takesSome hsound) s).begins ?_ h
  intro before s taken image hmatch
  obtain ⟨_, _, _, _, _, hread, _⟩ := readingRule_eq_some hmatch
  exact hpiece.longer (hsound.record hread)

/-- What a pass makes of a text begins as the text does, or with a record. -/
theorem exists_cons_pass (hsound : reading.Sound) (c : Char) (rest : List Char) :
    ∃ d more, pass reading (c :: rest) = d :: more ∧ (d = c ∨ d = 'R') := by
  cases hmatch : readingRule reading none (c :: rest) with
  | none => exact ⟨c, _, substitute_cons (readingRule_blind reading) hmatch, .inl rfl⟩
  | some taken =>
      obtain ⟨_, _, _, _, _, hread, _⟩ := readingRule_eq_some hmatch
      obtain ⟨more, hmore⟩ := hsound.record hread
      rw [pass, substitute, substituteFrom, hmatch]
      simp only [← hmore]
      exact ⟨'R', _, rfl, .inr rfl⟩

/-- No pass makes a name. -/
theorem afterDictionary?_pass (hsound : reading.Sound) (h : afterDictionary? (c :: rest) = none) :
    afterDictionary? (c :: pass reading rest) = none := by
  have hunseen : ∀ name ∈ dictionaryNames, Unseen opening name := by decide
  rw [afterDictionary?_eq_none_iff] at h ⊢
  intro name hname hpre
  refine h name hname ?_
  obtain ⟨d, letters, rfl⟩ := List.exists_cons_of_ne_nil (ne_nil_of_mem_names hname)
  rw [List.cons_prefix_cons] at hpre ⊢
  have hletters : Unseen opening letters := (hunseen _ hname).tail
  exact ⟨hpre.1, prefix_of_prefix_pass hsound hletters hpre.2⟩

end Pass

/-! ## The three passes together -/

/-- The text begins with a dictionary that is left to the third pass. -/
def startsPlain (s : List Char) : Bool :=
  (afterDictionary? s).any fun after => after.head?.any (· != '<')

/-- Where no name begins, the first two passes copy the character and make no name. -/
theorem earlyPasses_cons (h : afterDictionary? (c :: rest) = none) :
    earlyPasses (c :: rest) = c :: earlyPasses rest ∧
      afterDictionary? (c :: earlyPasses rest) = none := by
  have hfirst : afterDictionary? (c :: pass typeArguments rest) = none :=
    afterDictionary?_pass typeArguments_sound h
  constructor
  · rw [earlyPasses, pass_cons_of_none _ h, pass_cons_of_none _ hfirst]
    rfl
  · exact afterDictionary?_pass endOfText_sound hfirst

theorem mapDictionaries_cons (h : afterDictionary? (c :: rest) = none) :
    mapDictionaries (c :: rest) = c :: mapDictionaries rest := by
  obtain ⟨hcopied, hnone⟩ := earlyPasses_cons h
  rw [mapDictionaries_eq, mapDictionaries_eq, hcopied, pass_cons_of_none _ hnone]

theorem earlyPasses_unnamed (hpiece : Unnamed piece) (rest : List Char) :
    earlyPasses (piece ++ rest) = piece ++ earlyPasses rest := by
  rw [earlyPasses, pass_unnamed _ hpiece, pass_unnamed _ hpiece]
  rfl

theorem mapDictionaries_unnamed (hpiece : Unnamed piece) (rest : List Char) :
    mapDictionaries (piece ++ rest) = piece ++ mapDictionaries rest := by
  rw [mapDictionaries_eq, mapDictionaries_eq, earlyPasses_unnamed hpiece, pass_unnamed _ hpiece]

theorem unnamed_opening : Unnamed opening := by decide

theorem unnamed_plainRecord : Unnamed plainRecord := by decide

/-- A dictionary with type arguments is mapped by the first pass. -/
theorem earlyPasses_generic (hname : name ∈ dictionaryNames) (rest : List Char) :
    earlyPasses (name ++ '<' :: rest) = opening ++ earlyPasses rest := by
  have hread : typeArguments (['<'] ++ rest) = some (opening, rest) := rfl
  have hfirst : pass typeArguments (name ++ '<' :: rest) = opening ++ pass typeArguments rest :=
    pass_read hname hread
  rw [earlyPasses, hfirst, pass_unnamed _ unnamed_opening]
  rfl

/-- A dictionary at the end of the text is mapped by the second pass. -/
theorem earlyPasses_last (hname : name ∈ dictionaryNames) : earlyPasses name = plainRecord := by
  have hfirst : pass typeArguments name = name := by
    have h : pass typeArguments (name ++ []) = name ++ pass typeArguments [] :=
      pass_unread typeArguments hname rfl
    rwa [List.append_nil, show pass typeArguments [] = [] from rfl, List.append_nil] at h
  have hread : endOfText ([] ++ []) = some (plainRecord, []) := rfl
  have h := pass_read hname hread
  rw [List.append_nil, List.append_nil] at h
  rw [earlyPasses, hfirst, h]
  rfl

/-- The first two passes leave any other dictionary, and leave no argument list behind it. -/
theorem earlyPasses_other (hname : name ∈ dictionaryNames) (hc : c ≠ '<') (rest : List Char) :
    earlyPasses (name ++ c :: rest) = name ++ earlyPasses (c :: rest) ∧
      ∃ d more, earlyPasses (c :: rest) = d :: more ∧ d ≠ '<' := by
  have hunread : typeArguments (c :: rest) = none := typeArguments_eq_none hc rest
  obtain ⟨d, more, hfirst, hd⟩ := exists_cons_pass typeArguments_sound c rest
  obtain ⟨e, more', hsecond, he⟩ := exists_cons_pass endOfText_sound d more
  have hearly : earlyPasses (c :: rest) = e :: more' := by rw [earlyPasses, hfirst, hsecond]
  have hunread' : endOfText (pass typeArguments (c :: rest)) = none := by
    rw [hfirst]
    rfl
  constructor
  · rw [earlyPasses, pass_unread _ hname hunread, pass_unread _ hname hunread']
    rfl
  · refine ⟨e, more', hearly, ?_⟩
    rcases he with rfl | rfl
    · rcases hd with rfl | rfl
      · exact hc
      · decide
    · decide

/-- A dictionary that the third pass maps takes the next character along. -/
theorem pass_anyCharacter (hname : name ∈ dictionaryNames) (hc : c ≠ '<') (rest : List Char) :
    pass anyCharacter (name ++ c :: rest) = plainRecord ++ c :: pass anyCharacter rest := by
  have hread : anyCharacter ([c] ++ rest) = some (plainRecord ++ [c], rest) := by
    simp only [anyCharacter, List.cons_append, List.nil_append, if_neg hc]
  have h : pass anyCharacter (name ++ c :: rest) = (plainRecord ++ [c]) ++ pass anyCharacter rest :=
    pass_read hname hread
  rw [h, List.append_assoc]
  rfl

theorem startsPlain_append (hname : name ∈ dictionaryNames) (rest : List Char) :
    startsPlain (name ++ rest) = rest.head?.any (· != '<') := by
  rw [startsPlain, afterDictionary?_append hname, Option.any_some]

/-- What the first two passes make of a text begins with no dictionary, unless they leave the one it
begins with. -/
theorem afterDictionary?_earlyPasses_eq_none (h : startsPlain s = false) :
    afterDictionary? (earlyPasses s) = none := by
  cases hafter : afterDictionary? s with
  | none =>
      cases s with
      | nil => rfl
      | cons c rest =>
          obtain ⟨hcopied, hnone⟩ := earlyPasses_cons hafter
          rw [hcopied, hnone]
  | some after =>
      obtain ⟨name, hname, rfl⟩ := afterDictionary?_eq_some_iff.mp hafter
      rw [startsPlain_append hname] at h
      cases after with
      | nil =>
          rw [List.append_nil, earlyPasses_last hname]
          decide
      | cons c rest =>
          have hc : c = '<' := by simpa using h
          rw [hc, earlyPasses_generic hname]
          exact unnamed_opening.afterDictionary? (by decide) _

/-- The first two passes leave the dictionary that a text begins with, and its first character. -/
theorem earlyPasses_cons_of_startsPlain (h : startsPlain (c :: rest) = true) :
    earlyPasses (c :: rest) = c :: earlyPasses rest := by
  cases hafter : afterDictionary? (c :: rest) with
  | none =>
      rw [startsPlain, hafter] at h
      cases h
  | some after =>
      obtain ⟨name, hname, hcons⟩ := afterDictionary?_eq_some_iff.mp hafter
      rw [hcons, startsPlain_append hname] at h
      cases after with
      | nil => cases h
      | cons d more =>
          have hd : d ≠ '<' := by simpa using h
          have hunread : typeArguments (d :: more) = none := typeArguments_eq_none hd more
          have hcopied : pass typeArguments (c :: rest) = c :: pass typeArguments rest :=
            pass_cons fun after' hafter' => by
              rw [hafter] at hafter'
              cases hafter'
              exact hunread
          -- the name stands before the second pass as it stood before the first
          obtain ⟨e, more', hbehind, -⟩ := exists_cons_pass typeArguments_sound d more
          have hname' : c :: pass typeArguments rest = name ++ e :: more' := by
            rw [← hcopied, hcons, pass_unread _ hname hunread, hbehind]
          have hcopied' : pass endOfText (c :: pass typeArguments rest)
              = c :: pass endOfText (pass typeArguments rest) :=
            pass_cons fun after' hafter' => by
              rw [hname', afterDictionary?_append hname] at hafter'
              cases hafter'
              rfl
          rw [earlyPasses, hcopied, hcopied']
          rfl

theorem mapDictionaries_generic (hname : name ∈ dictionaryNames) (rest : List Char) :
    mapDictionaries (name ++ '<' :: rest) = opening ++ mapDictionaries rest := by
  rw [mapDictionaries_eq, mapDictionaries_eq, earlyPasses_generic hname,
    pass_unnamed _ unnamed_opening]

/-- A dictionary before a text that the third pass does not map at its head. -/
theorem mapDictionaries_plain (hname : name ∈ dictionaryNames) (hopen : rest.head? ≠ some '<')
    (hseen : startsPlain rest = false) :
    mapDictionaries (name ++ rest) = plainRecord ++ mapDictionaries rest := by
  rw [mapDictionaries_eq, mapDictionaries_eq]
  cases rest with
  | nil =>
      rw [List.append_nil, earlyPasses_last hname]
      exact pass_unnamed anyCharacter unnamed_plainRecord []
  | cons c rest =>
      have hc : c ≠ '<' := fun hc => hopen (congrArg some hc)
      obtain ⟨hleft, d, more, hearly, hd⟩ := earlyPasses_other hname hc rest
      have hnone := afterDictionary?_earlyPasses_eq_none hseen
      rw [hearly] at hnone
      -- the character that is taken along begins no name, so it would be copied as well
      rw [hleft, hearly, pass_anyCharacter hname hd, pass_cons_of_none _ hnone]

/-- A dictionary before another one that the third pass would map. -/
theorem mapDictionaries_shadowing (hname : name ∈ dictionaryNames) (hc : c ≠ '<')
    (hunseen : startsPlain (c :: rest) = true) :
    mapDictionaries (name ++ c :: rest) = plainRecord ++ c :: mapDictionaries rest := by
  rw [mapDictionaries_eq, mapDictionaries_eq, (earlyPasses_other hname hc rest).1,
    earlyPasses_cons_of_startsPlain hunseen, pass_anyCharacter hname hc]

/-- How the dictionaries of a text are mapped, seen from left to right. -/
inductive Mapped : List Char → List Char → Prop
  | nil : Mapped [] []
  | copied {c : Char} {rest out : List Char} (unnamed : afterDictionary? (c :: rest) = none)
      (later : Mapped rest out) : Mapped (c :: rest) (c :: out)
  | generic {name rest out : List Char} (known : name ∈ dictionaryNames)
      (later : Mapped rest out) : Mapped (name ++ '<' :: rest) (opening ++ out)
  | plain {name rest out : List Char} (known : name ∈ dictionaryNames)
      (unopened : rest.head? ≠ some '<') (seen : startsPlain rest = false)
      (later : Mapped rest out) : Mapped (name ++ rest) (plainRecord ++ out)
  /-- The dictionary that begins behind the name is not seen, as its first character is taken along. -/
  | shadowing {name rest out : List Char} {c : Char} (known : name ∈ dictionaryNames)
      (unopened : c ≠ '<') (unseen : startsPlain (c :: rest) = true)
      (later : Mapped rest out) : Mapped (name ++ c :: rest) (plainRecord ++ c :: out)

theorem mapDictionaries_mapped (s : List Char) : Mapped s (mapDictionaries s) := by
  -- by recursion on the text behind the character that is copied, or behind the name
  cases hafter : afterDictionary? s with
  | none =>
      cases s with
      | nil => exact .nil
      | cons c rest =>
          rw [mapDictionaries_cons hafter]
          exact .copied hafter (mapDictionaries_mapped rest)
  | some rest =>
      obtain ⟨name, hname, hs⟩ := afterDictionary?_eq_some_iff.mp hafter
      have hpos := List.length_pos_of_ne_nil (ne_nil_of_mem_names hname)
      have hlength : s.length = name.length + rest.length := by rw [hs, List.length_append]
      rw [hs]
      by_cases hopen : rest.head? = some '<'
      · obtain ⟨more, rfl⟩ := List.head?_eq_some_iff.mp hopen
        rw [mapDictionaries_generic hname]
        exact .generic hname (mapDictionaries_mapped more)
      · cases hplain : startsPlain rest with
        | false =>
            rw [mapDictionaries_plain hname hopen hplain]
            exact .plain hname hopen hplain (mapDictionaries_mapped rest)
        | true =>
            cases rest with
            | nil => cases hplain
            | cons c rest =>
                have hc : c ≠ '<' := fun hc => hopen (congrArg some hc)
                rw [mapDictionaries_shadowing hname hc hplain]
                exact .shadowing hname hc hplain (mapDictionaries_mapped rest)
termination_by s.length
decreasing_by
  · simp
  · rw [List.length_cons] at hlength
    omega
  · omega
  · rw [List.length_cons] at hlength
    omega

/-! ## What the mapping keeps -/

/-- A property that no character has of a name or of an image of a dictionary. -/
structure Unrecorded (q : Char → Bool) : Prop where
  name : ∀ name ∈ dictionaryNames, ∀ c ∈ name, q c = false
  image : ∀ c ∈ plainRecord, q c = false

section Kept

variable {q : Char → Bool}

/-- This can be tested on the names and the image. -/
theorem Unrecorded.of_any
    (h : ((plainRecord :: dictionaryNames).any fun piece => piece.any q) = false) :
    Unrecorded q := by
  rw [List.any_cons, Bool.or_eq_false_iff] at h
  refine ⟨fun name hname => ?_, not_of_any h.1⟩
  exact not_of_any (Bool.eq_false_iff.mpr (List.any_eq_false.mp h.2 name hname))

theorem Unrecorded.opening (hq : Unrecorded q) : ∀ c ∈ opening, q c = false := by
  have hbegins : TypeText.opening <+: plainRecord := by decide
  exact fun c hc => hq.image c (hbegins.subset hc)

theorem ne_nil_of_opening : opening ≠ [] := by decide

theorem ne_nil_of_plainRecord : plainRecord ≠ [] := by decide

/-- The characters stay, in their order, that neither names nor images have. -/
theorem filter_mapped (hq : Unrecorded q) (h : Mapped s t) : t.filter q = s.filter q := by
  have hopen : q '<' = false := hq.image '<' (by decide)
  induction h with
  | nil => rfl
  | copied _ _ ih => rw [List.filter_cons, List.filter_cons, ih]
  | generic hname _ ih =>
      rw [filter_append_of_none hq.opening, filter_append_of_none (hq.name _ hname),
        List.filter_cons_of_neg (by simp [hopen]), ih]
  | plain hname _ _ _ ih =>
      rw [filter_append_of_none hq.image, filter_append_of_none (hq.name _ hname), ih]
  | shadowing hname _ _ _ ih =>
      rw [filter_append_of_none hq.image, filter_append_of_none (hq.name _ hname),
        List.filter_cons, List.filter_cons, ih]

/-- The first character has such a property if it had it before. -/
theorem head?_mapped (hq : Unrecorded q) (h : Mapped s t) : t.head?.any q = s.head?.any q := by
  have hnamed {name : List Char} (hname : name ∈ dictionaryNames) (rest : List Char) :
      (name ++ rest).head?.any q = false :=
    head?_append_of_none (ne_nil_of_mem_names hname) (hq.name _ hname) rest
  have hrecord (out : List Char) : (plainRecord ++ out).head?.any q = false :=
    head?_append_of_none ne_nil_of_plainRecord hq.image out
  cases h with
  | nil => rfl
  | copied _ _ => rfl
  | generic hname _ =>
      rw [hnamed hname, head?_append_of_none ne_nil_of_opening hq.opening]
  | plain hname _ _ _ => rw [hnamed hname, hrecord]
  | shadowing hname _ _ _ => rw [hnamed hname, hrecord]

theorem Mapped.eq_nil (h : Mapped s t) (hs : s = []) : t = [] := by
  cases h with
  | nil => rfl
  | copied _ _ => cases hs
  | generic hname _ => exact absurd (List.append_eq_nil_iff.mp hs).1 (ne_nil_of_mem_names hname)
  | plain hname _ _ _ => exact absurd (List.append_eq_nil_iff.mp hs).1 (ne_nil_of_mem_names hname)
  | shadowing hname _ _ _ => cases (List.append_eq_nil_iff.mp hs).2

/-- What ends without such a character ends without one when it is mapped. -/
theorem endsWithout_mapped (hq : Unrecorded q) (h : Mapped s t) (hs : EndsWithout q s) :
    EndsWithout q t := by
  have hextend {rest out image : List Char} (later : Mapped rest out) (himage : EndsWithout q image)
      (ih : rest ≠ [] → EndsWithout q out) : EndsWithout q (image ++ out) := by
    by_cases hrest : rest = []
    · rw [later.eq_nil hrest, List.append_nil]
      exact himage
    · exact (ih hrest).append image
  have hkept {c : Char} {rest out : List Char} (later : Mapped rest out)
      (hs : EndsWithout q (c :: rest)) (ih : EndsWithout q rest → EndsWithout q out) :
      EndsWithout q (c :: out) := by
    by_cases hrest : rest = []
    · rw [later.eq_nil hrest]
      rwa [hrest] at hs
    · exact (ih (hs.of_append (s := [c]) hrest)).append [c]
  have hrecord : EndsWithout q plainRecord := .of_none ne_nil_of_plainRecord hq.image
  induction h with
  | nil => exact hs
  | copied _ later ih => exact hkept later hs ih
  | @generic name rest out hname later ih =>
      refine hextend later (.of_none ne_nil_of_opening hq.opening) fun hrest => ih ?_
      exact (hs.of_append (List.cons_ne_nil _ _)).of_append (s := ['<']) hrest
  | plain hname _ _ later ih => exact hextend later hrecord fun hrest => ih (hs.of_append hrest)
  | shadowing hname _ _ later ih =>
      exact (hkept later (hs.of_append (List.cons_ne_nil _ _)) ih).append plainRecord

/-- What a mapped text begins with it has begun with before, if no record is seen in it. -/
theorem prefix_of_prefix_mapped (h : Mapped s t) (hpiece : Unseen opening piece)
    (ht : piece <+: t) : piece <+: s := by
  have hrecord {piece : List Char} (hpiece : Unseen opening piece) : Unseen plainRecord piece :=
    hpiece.longer (by decide)
  induction h generalizing piece with
  | nil => exact ht
  | copied _ _ ih =>
      refine prefix_cons_of_later ht fun later hcons hlater => ih ?_ hlater
      subst hcons
      exact hpiece.tail
  | generic _ _ _ =>
      rw [hpiece.eq_nil ht]
      exact List.nil_prefix
  | plain _ _ _ _ _ =>
      rw [(hrecord hpiece).eq_nil ht]
      exact List.nil_prefix
  | shadowing _ _ _ _ _ =>
      rw [(hrecord hpiece).eq_nil ht]
      exact List.nil_prefix

/-- What a text begins with it begins with when it is mapped, if no name is seen in it. -/
theorem prefix_mapped (h : Mapped s t) (hpiece : Unnamed piece) (hs : piece <+: s) :
    piece <+: t := by
  induction h generalizing piece with
  | nil => exact hs
  | copied _ _ ih =>
      refine prefix_cons_of_later hs fun later hcons hlater => ih ?_ hlater
      subst hcons
      exact fun name hname => (hpiece name hname).tail
  | generic hname _ _ =>
      rw [(hpiece _ hname).eq_nil hs]
      exact List.nil_prefix
  | plain hname _ _ _ _ =>
      rw [(hpiece _ hname).eq_nil hs]
      exact List.nil_prefix
  | shadowing hname _ _ _ _ =>
      rw [(hpiece _ hname).eq_nil hs]
      exact List.nil_prefix

/-- No dictionary is made at the head of a text, and none is lost behind its first letter. -/
theorem dictionary_prefix_cons_iff (h : Mapped s t) (c : Char) :
    dictionary <+: c :: t ↔ dictionary <+: c :: s := by
  have hdictionary : dictionary = 'D' :: "ictionary".toList := by decide
  rw [hdictionary, List.cons_prefix_cons, List.cons_prefix_cons]
  constructor
  · rintro ⟨hc, ht⟩
    exact ⟨hc, prefix_of_prefix_mapped h (by decide) ht⟩
  · rintro ⟨hc, hs⟩
    exact ⟨hc, prefix_mapped h (by decide) hs⟩

end Kept

end ClassRecovery.TypeText
