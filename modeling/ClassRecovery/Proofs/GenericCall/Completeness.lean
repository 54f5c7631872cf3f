import ClassRecovery.Config
import ClassRecovery.GenericCall
import ClassRecovery.Proofs.Text.Cut
import ClassRecovery.Proofs.Text.Substitute
import ClassRecovery.Proofs.TypeText.Idempotence
import Mathlib.Data.List.Chain

/-!
# No generic call is left

A text has a generic call with an explicit type where, from a word boundary on, an identifier stands
in it, then a type in parentheses and `.call(` (`HasCall`). When the calls of a text are made explicit
none is left (`not_hasCall_explicitChars`), and a text without any stays as it is
(`explicitChars_eq_self`); so doing it again changes nothing (`explicit_complete`).

What carries the proof is a fact about parentheses. In front of each opening parenthesis of a call
stands a character of an identifier, but in front of the one that an explicit call opens stands `>`:
no call begins in a replaced piece, and none that begins before it reaches into it.
-/

set_option autoImplicit false

namespace ClassRecovery

open Text

/-- A parenthesis of either kind. -/
def isParen (c : Char) : Bool := c == '(' || c == ')'

theorem isParen_of_any {s : List Char} (h : s.any isParen = false) : ∀ c ∈ s, isParen c = false :=
  fun c hc => Bool.eq_false_iff.mpr (List.any_eq_false.mp h c hc)

/-! ## Parentheses of types -/

namespace TypeText

theorem isParen_foreign : Foreign isParen := .of_any (by decide) (by decide)

theorem isParen_unrecorded : Unrecorded isParen := .of_any (by decide)

theorem mem_of_mem_mapDelegate {c : Char} (hc : isParen c = true) {s : List Char}
    (h : c ∈ mapDelegate s) : c ∈ s := by
  rcases mapDelegate_cases s with hsame | ⟨result, rfl, hmapped⟩
  · rwa [mapDelegate_eq_self hsame] at h
  · have haction : ∀ d ∈ "Action<".toList ++ ['>'], isParen d = false := isParen_of_any (by decide)
    rw [hmapped, List.mem_append, List.mem_append] at h
    rcases h with h | h | h
    · rw [haction c (List.mem_append_left _ h)] at hc
      cases hc
    · exact List.mem_append_right _ h
    · rw [haction c (List.mem_append_right _ h)] at hc
      cases hc

/-- A parenthesis of a mapped text has stood in the text. -/
theorem mem_of_mem_mapWhole {c : Char} (hc : isParen c = true) {s : List Char}
    (h : c ∈ mapWhole s) : c ∈ s := by
  have hdictionaries := filter_mapped isParen_unrecorded
    (mapDictionaries_mapped (mapDelegate (mapWords (dropModifiers s))))
  have hdelegate := mem_of_mem_mapDelegate hc ((mem_iff_of_filter hdictionaries hc).mp h)
  have hwords := (mem_iff_of_filter (filter_mapWords isParen_foreign (dropModifiers s)) hc).mp
    hdelegate
  exact (dropModifiers_suffix s).subset hwords

/-- A parenthesis of a normalized type has stood in the type. -/
theorem mem_of_mem_normalizeChars {c : Char} (hc : isParen c = true) {raw : List Char}
    (h : c ∈ normalizeChars raw) : c ∈ raw := by
  have hstripped (hmem : c ∈ mapWhole (withoutMarks raw)) : c ∈ raw :=
    (List.mem_filter.mp ((trim_sublist _).subset (mem_of_mem_mapWhole hc hmem))).1
  unfold normalizeChars at h
  split at h
  · exact h
  · dsimp only at h
    split at h
    · cases h
    · split at h
      · exact hstripped h
      · rcases List.mem_append.mp h with h | h
        · exact hstripped h
        · have hsuffix : ∀ d ∈ absentSuffix, isParen d = false := isParen_of_any (by decide)
          rw [hsuffix c h] at hc
          cases hc

end TypeText

namespace GenericCall

variable {before : Option Char} {s t : List Char} {head : Head}

/-! ## Heads of calls -/

/-- The characters of the head of a call, up to the parenthesis that opens the arguments. -/
def Head.opening (head : Head) : List Char := head.name ++ '(' :: (head.type ++ ").call(".toList)

/-- The head is one of a generic call behind `before`: from a word boundary on it has an identifier,
and a type without parentheses; neither of them is empty. -/
structure Head.Begins (before : Option Char) (head : Head) : Prop where
  boundary : isBoundary before head.name.head? = true
  name_ne_nil : head.name ≠ []
  name_ident : ∀ c ∈ head.name, isIdent c = true
  type_ne_nil : head.type ≠ []
  type_plain : ∀ c ∈ head.type, isParen c = false

theorem Head.Begins.withRest (h : head.Begins before) (rest : List Char) :
    Head.Begins before { head with rest := rest } :=
  ⟨h.boundary, h.name_ne_nil, h.name_ident, h.type_ne_nil, h.type_plain⟩

theorem isParen_eq_false_iff {c : Char} :
    isParen c = false ↔ (c != '(' && c != ')') = true := by
  simp [isParen]

/-- The parts of a head that is found, and what follows each of them. -/
theorem parts_of_headAt? (h : headAt? before s = some head) :
    isBoundary before s.head? = true ∧ s.takeWhile isIdent ≠ [] ∧
      ∃ inner, s.dropWhile isIdent = '(' :: inner ∧
        inner.takeWhile (fun c => c != '(' && c != ')') ≠ [] ∧
        ∃ rest, ").call(".toList.isPrefixOf?
            (inner.dropWhile fun c => c != '(' && c != ')') = some rest ∧
          head = ⟨s.takeWhile isIdent, inner.takeWhile fun c => c != '(' && c != ')', rest⟩ := by
  unfold headAt? at h
  simp only [Option.ite_none_right_eq_some, Option.ite_none_left_eq_some, List.isEmpty_iff] at h
  obtain ⟨hboundary, hname, h⟩ := h
  refine ⟨hboundary, hname, ?_⟩
  cases hinner : s.dropWhile isIdent with
  | nil =>
      rw [hinner] at h
      cases h
  | cons c inner =>
      rw [hinner] at h
      by_cases hc : c = '('
      · subst hc
        obtain ⟨htype, h⟩ := Option.ite_none_left_eq_some.mp h
        obtain ⟨rest, hrest, rfl⟩ := Option.map_eq_some_iff.mp h
        exact ⟨inner, rfl, htype, rest, hrest, rfl⟩
      · simp [hc] at h

/-- What is found where a text begins is a head. -/
theorem begins_of_headAt? (h : headAt? before s = some head) :
    head.Begins before ∧ s = head.opening ++ head.rest := by
  obtain ⟨hboundary, hname, inner, hinner, htype, rest, hrest, rfl⟩ := parts_of_headAt? h
  have hs : s = s.takeWhile isIdent ++ '(' :: inner := by
    rw [← hinner, List.takeWhile_append_dropWhile]
  have hcall := List.isPrefixOf?_eq_some_iff_append_eq.mp hrest
  refine ⟨⟨?_, hname, fun c hc => List.mem_takeWhile_imp hc, htype, fun c hc => ?_⟩, ?_⟩
  · rw [hs, List.head?_append_of_ne_nil _ hname] at hboundary
    exact hboundary
  · exact isParen_eq_false_iff.mpr (List.mem_takeWhile_imp (l := inner) hc)
  · simp only [Head.opening, List.append_assoc, List.cons_append]
    rw [hcall, List.takeWhile_append_dropWhile]
    exact hs

/-- A head is found where a text begins with it. -/
theorem Head.Begins.headAt? (h : head.Begins before) :
    headAt? before (head.opening ++ head.rest) = some head := by
  have hname : isIdent '(' = false := by decide
  have htype (c : Char) (hc : c ∈ head.type) : (c != '(' && c != ')') = true :=
    isParen_eq_false_iff.mp (h.type_plain c hc)
  have hclosing : (')' != '(' && ')' != ')') = false := by decide
  have hcall : ").call(".toList ++ head.rest = ')' :: (".call(".toList ++ head.rest) := by
    rw [show ").call(".toList = ')' :: ".call(".toList by decide, List.cons_append]
  have hopening : head.opening ++ head.rest
      = head.name ++ '(' :: (head.type ++ (").call(".toList ++ head.rest)) := by
    simp only [Head.opening, List.append_assoc, List.cons_append]
  have hfirst : (head.opening ++ head.rest).head? = head.name.head? := by
    rw [hopening, List.head?_append_of_ne_nil _ h.name_ne_nil]
  have hprefix : ").call(".toList.isPrefixOf? (").call(".toList ++ head.rest) = some head.rest :=
    List.isPrefixOf?_eq_some_iff_append_eq.mpr rfl
  unfold GenericCall.headAt?
  rw [hfirst, if_pos h.boundary, hopening, takeWhile_append_cons h.name_ident hname,
    dropWhile_append_cons h.name_ident hname]
  dsimp only
  rw [if_neg (by simpa using h.name_ne_nil)]
  show (if (List.takeWhile _ (head.type ++ (").call(".toList ++ head.rest))).isEmpty = true
    then none else _) = some head
  rw [hcall, takeWhile_append_cons htype hclosing, dropWhile_append_cons htype hclosing,
    if_neg (by simpa using h.type_ne_nil), ← hcall, hprefix]
  rfl

theorem headAt?_eq_some_iff :
    headAt? before s = some head ↔ head.Begins before ∧ s = head.opening ++ head.rest := by
  constructor
  · exact begins_of_headAt?
  · rintro ⟨hbegins, rfl⟩
    exact hbegins.headAt?

/-- A generic call with an explicit type begins somewhere in a text that stands behind `before`. -/
def HasCallAfter (before : Option Char) (s : List Char) : Prop :=
  ∃ (front : List Char) (head : Head),
    s = front ++ (head.opening ++ head.rest) ∧ head.Begins (front.getLast?.or before)

/-- A generic call with an explicit type begins somewhere in the text: an identifier from a word
boundary on, a type in parentheses without any parenthesis in it, and `.call(`. -/
def HasCall (s : List Char) : Prop := HasCallAfter none s

/-! ## The matchers -/

theorem length_append_sub (front back : List Char) :
    (front ++ back).length - back.length = front.length := by
  rw [List.length_append, Nat.add_sub_cancel]

theorem receiverRule_eq_some_iff {found : Nat × List Char} :
    receiverRule before s = some found ↔
      ∃ head : Head, head.Begins before ∧ s = head.opening ++ head.rest ∧
        found = (head.opening.length, head.image) := by
  simp only [receiverRule, Option.bind_eq_bind, Option.bind_eq_some_iff, headAt?_eq_some_iff,
    Option.some.injEq]
  constructor
  · rintro ⟨head, ⟨hbegins, rfl⟩, rfl⟩
    exact ⟨head, hbegins, rfl, by rw [length_append_sub]⟩
  · rintro ⟨head, hbegins, rfl, rfl⟩
    exact ⟨head, ⟨hbegins, rfl⟩, by rw [length_append_sub]⟩

/-- A call with a `null` receiver is taken with the white space behind the receiver. -/
theorem nullReceiverRule_eq_some_iff {found : Nat × List Char} :
    nullReceiverRule before s = some found ↔
      ∃ (head : Head) (arguments : List Char), head.Begins before ∧
        s = head.opening ++ ("null,".toList ++ arguments) ∧
        head.rest = "null,".toList ++ arguments ∧ arguments.head?.any isBlank = true ∧
        found = (s.length - (arguments.dropWhile isBlank).length, head.image) := by
  simp only [nullReceiverRule, Option.bind_eq_bind, Option.bind_eq_some_iff, headAt?_eq_some_iff,
    List.isPrefixOf?_eq_some_iff_append_eq]
  constructor
  · rintro ⟨head, ⟨hbegins, rfl⟩, arguments, hrest, hfound⟩
    obtain ⟨hblank, hfound⟩ := Option.ite_none_right_eq_some.mp hfound
    cases hfound
    exact ⟨head, arguments, hbegins, by rw [hrest], hrest.symm, hblank, rfl⟩
  · rintro ⟨head, arguments, hbegins, hs, hrest, hblank, rfl⟩
    exact ⟨head, ⟨hbegins, by rw [hs, hrest]⟩, arguments, hrest.symm, if_pos hblank⟩

theorem receiverRule_takesSome : TakesSome receiverRule := by
  intro before s taken image hmatch
  obtain ⟨head, -, rfl, hfound⟩ := receiverRule_eq_some_iff.mp hmatch
  cases hfound
  refine ⟨?_, ?_⟩
  · simp only [Head.opening, List.length_append, List.length_cons]
    omega
  · simp only [List.length_append]
    omega

theorem nullReceiverRule_takesSome : TakesSome nullReceiverRule := by
  intro before s taken image hmatch
  obtain ⟨head, arguments, -, hs, -, -, hfound⟩ := nullReceiverRule_eq_some_iff.mp hmatch
  cases hfound
  have hblanks : (arguments.dropWhile isBlank).length ≤ arguments.length :=
    List.length_dropWhile_le _ _
  have hlength := congrArg List.length hs
  simp only [Head.opening, List.length_append, List.length_cons] at hlength
  omega

/-- Only at a call is anything recognized, whatever the receiver is. -/
theorem receiverRule_eq_none (h : ¬ HasCallAfter before s) (front back : List Char)
    (hs : s = front ++ back) : receiverRule (front.getLast?.or before) back = none := by
  by_contra hsome
  obtain ⟨found, hfound⟩ := Option.ne_none_iff_exists'.mp hsome
  obtain ⟨head, hbegins, hback, -⟩ := receiverRule_eq_some_iff.mp hfound
  exact h ⟨front, head, by rw [hs, hback], hbegins⟩

theorem nullReceiverRule_eq_none (h : ¬ HasCallAfter before s) (front back : List Char)
    (hs : s = front ++ back) : nullReceiverRule (front.getLast?.or before) back = none := by
  by_contra hsome
  obtain ⟨found, hfound⟩ := Option.ne_none_iff_exists'.mp hsome
  obtain ⟨head, arguments, hbegins, hback, hrest, -, -⟩ := nullReceiverRule_eq_some_iff.mp hfound
  exact h ⟨front, head, by rw [hs, hback, hrest], hbegins⟩

theorem substituteFrom_receiverRule (h : ¬ HasCallAfter before s) :
    substituteFrom receiverRule 0 before s = s :=
  (substituteFrom_rewritten receiverRule_takesSome before s).eq_self (receiverRule_eq_none h)

theorem substituteFrom_nullReceiverRule (h : ¬ HasCallAfter before s) :
    substituteFrom nullReceiverRule 0 before s = s :=
  (substituteFrom_rewritten nullReceiverRule_takesSome before s).eq_self
    (nullReceiverRule_eq_none h)

/-- A text without calls stays as it is. -/
theorem explicitChars_eq_self (h : ¬ HasCall s) : explicitChars s = s := by
  rw [explicitChars, substitute, substitute, substituteFrom_nullReceiverRule h,
    substituteFrom_receiverRule h]

/-! ## Opening parentheses -/

/-- An opening parenthesis stands behind a character of an identifier. -/
def OpensAfterName (a b : Char) : Prop := b = '(' → isIdent a = true

instance : DecidableRel OpensAfterName := fun a b =>
  inferInstanceAs (Decidable (b = '(' → isIdent a = true))

theorem isChain_of_notMem (h : '(' ∉ s) : s.IsChain OpensAfterName := by
  induction s with
  | nil => exact .nil
  | cons c s ih =>
      obtain ⟨-, hs⟩ := not_or.mp (mt List.mem_cons.mpr h)
      refine List.isChain_cons.mpr ⟨fun d hd hopens => ?_, ih hs⟩
      exact absurd (List.mem_of_mem_head? hd) (hopens ▸ hs)

theorem notMem_of_plain {c : Char} (hc : isParen c = true) (h : ∀ d ∈ s, isParen d = false) :
    c ∉ s := by
  intro hmem
  rw [h c hmem] at hc
  cases hc

/-- An identifier has no parenthesis. -/
theorem isParen_of_isIdent {c : Char} (h : isIdent c = true) : isParen c = false := by
  have hparens : isIdent '(' = false ∧ isIdent ')' = false := by decide
  rw [isParen, Bool.or_eq_false_iff, beq_eq_false_iff_ne, beq_eq_false_iff_ne]
  constructor
  · rintro rfl
    rw [hparens.1] at h
    cases h
  · rintro rfl
    rw [hparens.2] at h
    cases h

namespace Head

/-- What stands for a head, but for its opening parenthesis. -/
def direct (head : Head) : List Char :=
  head.name ++ ('<' :: TypeText.normalizeChars head.type ++ ['>'])

theorem image_eq (head : Head) : head.image = head.direct ++ ['('] := by
  simp [image, direct]

theorem getLast?_direct (head : Head) : head.direct.getLast? = some '>' := by
  rw [direct, ← List.append_assoc, List.getLast?_concat]

namespace Begins

theorem isParen_name (h : head.Begins before) : ∀ c ∈ head.name, isParen c = false :=
  fun c hc => isParen_of_isIdent (h.name_ident c hc)

/-- In the head of a call each opening parenthesis stands behind an identifier. -/
theorem opensAfterName (h : head.Begins before) : head.opening.IsChain OpensAfterName := by
  have hname : '(' ∉ head.name := notMem_of_plain rfl h.isParen_name
  have htype : '(' ∉ head.type := notMem_of_plain rfl h.type_plain
  have hcall : (").call(".toList).IsChain OpensAfterName := by decide
  refine List.isChain_append.mpr ⟨isChain_of_notMem hname, ?_, ?_⟩
  · refine List.isChain_cons.mpr ⟨fun c hc hopens => ?_, ?_⟩
    · rw [List.head?_append_of_ne_nil _ h.type_ne_nil] at hc
      exact absurd (List.mem_of_mem_head? hc) (hopens ▸ htype)
    · refine List.isChain_append.mpr ⟨isChain_of_notMem htype, hcall, fun c _ d hd hopens => ?_⟩
      subst hopens
      cases hd
  · intro c hc _ _ _
    exact h.name_ident c (List.mem_of_mem_getLast? hc)

/-- What stands for a head has no parenthesis but its last character. -/
theorem isParen_direct (h : head.Begins before) : ∀ c ∈ head.direct, isParen c = false := by
  intro c hc
  rw [Bool.eq_false_iff]
  intro hparen
  simp only [direct, List.mem_append, List.mem_cons, List.not_mem_nil, or_false] at hc
  rcases hc with hc | (rfl | hc) | rfl
  · rw [h.isParen_name c hc] at hparen
    cases hparen
  · cases hparen
  · rw [h.type_plain c (TypeText.mem_of_mem_normalizeChars hparen hc)] at hparen
    cases hparen
  · cases hparen

end Begins

end Head

theorem opening_concat (head : Head) :
    head.opening = head.name ++ '(' :: (head.type ++ ").call".toList) ++ ['('] := by
  rw [Head.opening, show ").call(".toList = ").call".toList ++ ['('] by decide]
  simp

theorem opening_ne_nil (head : Head) : head.opening ≠ [] := by
  rw [opening_concat]
  exact List.concat_ne_nil _ _

/-- No call reaches into what stands for another one. -/
theorem unseen_image {head' : Head} {before' : Option Char} (himage : head'.Begins before')
    (h : head.Begins before) : Unseen head'.image head.opening := by
  intro tail htail hne
  have hsuffix : tail <:+ head.opening := (List.mem_tails _ _).mp htail
  -- the last parenthesis of the image would stand in the call, behind `>`
  have hnot (more : List Char) : tail ≠ head'.direct ++ '(' :: more := by
    intro htail
    have hchain := h.opensAfterName.suffix hsuffix
    rw [htail] at hchain
    have hmark := (List.isChain_append.mp hchain).2.2 '>' head'.getLast?_direct '(' rfl rfl
    exact absurd hmark (by decide)
  constructor
  · rintro ⟨more, rfl⟩
    refine hnot more ?_
    rw [Head.image_eq, List.append_assoc, List.singleton_append]
  · rintro ⟨more, hmore⟩
    obtain ⟨front, rfl⟩ : ∃ front, tail = front ++ ['('] := by
      obtain ⟨skipped, hskipped⟩ := hsuffix
      refine List.getLast?_eq_some_iff.mp ?_
      rw [← List.getLast?_append_of_ne_nil skipped hne, hskipped, opening_concat,
        List.getLast?_concat]
    rw [Head.image_eq, List.append_assoc, List.singleton_append] at hmore
    obtain ⟨rfl, -, -⟩ := (List.append_cons_inj_of_notMem
      (notMem_of_plain rfl himage.isParen_direct) List.not_mem_nil).mp hmore.symm
    exact hnot [] rfl

/-! ## No call is left -/

/-- No call begins in what stands for another one: its name would end with `>`. -/
theorem not_begins_within {head' : Head} {before' : Option Char} (himage : head'.Begins before')
    {front ending : List Char} (hdirect : head'.direct = front ++ ending)
    (htext : head.opening ++ head.rest = ending ++ '(' :: s) : ¬ head.Begins before := by
  intro hbegins
  have hname : head.name = ending := by
    have hplain (c : Char) (hc : c ∈ ending) : isParen c = false :=
      himage.isParen_direct c (hdirect ▸ List.mem_append_right front hc)
    have hcut := congrArg (List.takeWhile fun c => !isParen c) htext
    simp only [Head.opening, List.append_assoc, List.cons_append] at hcut
    rwa [takeWhile_append_cons (by simpa using hbegins.isParen_name) rfl,
      takeWhile_append_cons (by simpa using hplain) rfl] at hcut
  have hmark : '>' ∈ head.name := by
    have hlast := head'.getLast?_direct
    rw [hdirect, ← hname, List.getLast?_append_of_ne_nil _ hbegins.name_ne_nil] at hlast
    exact List.mem_of_mem_getLast? hlast
  exact absurd (hbegins.name_ident '>' hmark) (by decide)

/-- A call in what a head is replaced by, and in what follows, begins behind it. -/
theorem hasCallAfter_of_image {head' : Head} {before' : Option Char} (himage : head'.Begins before')
    (h : HasCallAfter before (head'.image ++ s)) : HasCallAfter (some '(') s := by
  obtain ⟨front, head, htext, hbegins⟩ := h
  rcases List.append_eq_append_iff.mp htext with ⟨later, hfront, hs⟩ | ⟨within, himg, htext⟩
  · refine ⟨later, head, hs, ?_⟩
    rw [hfront, List.getLast?_append, Head.image_eq, List.getLast?_concat, Option.or_assoc,
      Option.some_or] at hbegins
    exact hbegins
  · rcases List.eq_nil_or_concat within with rfl | ⟨ending, c, rfl⟩
    · refine ⟨[], head, htext.symm, ?_⟩
      rw [List.append_nil] at himg
      rw [← himg, Head.image_eq, List.getLast?_concat] at hbegins
      exact hbegins
    · rw [List.concat_eq_append, Head.image_eq, ← List.append_assoc] at himg
      obtain ⟨hdirect, hparen⟩ := List.append_inj' himg rfl
      cases hparen
      rw [List.concat_eq_append, List.append_assoc, List.singleton_append] at htext
      exact absurd hbegins (not_begins_within himage hdirect htext)

/-- **Completeness.** Where all calls are made explicit, none is left. -/
theorem not_hasCallAfter_of_rewritten (h : Rewritten receiverRule before s t) :
    ¬ HasCallAfter before t := by
  have himage : ∀ before s taken image, receiverRule before s = some (taken, image) →
      ∃ head' : Head, ∃ before', head'.Begins before' ∧ image = head'.image := by
    intro before s taken image hmatch
    obtain ⟨head', hbegins, -, hfound⟩ := receiverRule_eq_some_iff.mp hmatch
    cases hfound
    exact ⟨head', before, hbegins, rfl⟩
  induction h with
  | nil =>
      rintro ⟨front, head, htext, hbegins⟩
      have hnil := (List.append_eq_nil_iff.mp htext.symm).2
      exact opening_ne_nil head (List.append_eq_nil_iff.mp hnil).1
  | @copied before c rest out unmatched later ih =>
      rintro ⟨front, head, htext, hbegins⟩
      cases front with
      | nil =>
          -- what is there now has been there before
          have hwhole : Rewritten receiverRule before (c :: rest) (c :: out) :=
            .copied unmatched later
          have hopening : head.opening <+: c :: rest := by
            refine hwhole.begins (fun before' s taken image hmatch => ?_)
              ⟨head.rest, htext.symm⟩
            obtain ⟨head', before'', hbegins', rfl⟩ := himage before' s taken image hmatch
            exact unseen_image hbegins' hbegins
          obtain ⟨more, hmore⟩ := hopening
          have hmatch : receiverRule before (c :: rest) = some (head.opening.length, head.image) :=
            receiverRule_eq_some_iff.mpr
              ⟨{ head with rest := more }, hbegins.withRest more, hmore.symm, rfl⟩
          rw [unmatched] at hmatch
          cases hmatch
      | cons d front =>
          rw [List.cons_append, List.cons.injEq] at htext
          obtain ⟨rfl, htext⟩ := htext
          rw [getLast?_cons_or] at hbegins
          exact ih ⟨front, head, htext, hbegins⟩
  | @replaced before taken rest image out matched later ih =>
      obtain ⟨head', hbegins', hs, hfound⟩ := receiverRule_eq_some_iff.mp matched
      obtain ⟨hlength, rfl⟩ := Prod.mk.inj hfound
      obtain ⟨rfl, -⟩ := List.append_inj hs hlength
      intro h
      have hlater := hasCallAfter_of_image hbegins' h
      rw [opening_concat, List.getLast?_concat] at ih
      exact ih hlater

theorem not_hasCall_explicitChars (s : List Char) : ¬ HasCall (explicitChars s) :=
  not_hasCallAfter_of_rewritten (substitute_rewritten receiverRule_takesSome _)

theorem not_hasCall_explicit (line : String) : ¬ HasCall (explicit line).toList := by
  rw [explicit, String.toList_ofList]
  exact not_hasCall_explicitChars line.toList

/-- Only a line with a call is changed. -/
theorem explicit_eq_self_iff {line : String} : explicit line = line ↔ ¬ HasCall line.toList := by
  constructor
  · intro hsame
    rw [← hsame]
    exact not_hasCall_explicit line
  · intro hnone
    rw [explicit, explicitChars_eq_self hnone, String.ofList_toList]

/-- No line has a generic call left once its calls are explicit, so that making them explicit again
changes nothing, nor does it change any line without calls; and the default cleaning of captured
lines is no other. -/
theorem explicit_complete (line : String) :
    (¬ HasCall (explicit line).toList ∧ explicit (explicit line) = explicit line ∧
        (explicit line = line ↔ ¬ HasCall line.toList)) ∧
      ¬ HasCall (({} : Config).cleaner.clean line).toList ∧
        ({} : Config).cleaner.clean (({} : Config).cleaner.clean line)
          = ({} : Config).cleaner.clean line := by
  have hnone : ¬ HasCall (explicit line).toList := not_hasCall_explicit line
  have hagain : explicit (explicit line) = explicit line := explicit_eq_self_iff.mpr hnone
  have hclean (text : String) : ({} : Config).cleaner.clean text = explicit text := rfl
  refine ⟨⟨hnone, hagain, explicit_eq_self_iff⟩, ?_, ?_⟩
  · rw [hclean]
    exact hnone
  · rw [hclean, hclean]
    exact hagain

end GenericCall

end ClassRecovery
