import ClassRecovery.Proofs.Dump.PrototypeChain

/-!
# Lines of constructor prototypes

The receivers of a prototype line are compared, but nothing says that they are identifiers: whatever
stands before and behind the link is taken for one. `classify_eq_constructorPrototype_iff` says of
every line, in every scope, whether it is recognized as the prototype of a secondary constructor.
-/

set_option autoImplicit false

namespace ClassRecovery.Dump

open Text

/-! ## Links -/

/-- The link to the secondary constructor whose number has this digit alone. -/
def digitLink (digit : Char) : List Char := linkOpening ++ digit :: ".prototype = ".toList

/-- The text holds no link with a digit of this kind. -/
def LinkFree (p : Char → Bool) (s : List Char) : Prop :=
  ∀ digit, p digit = true → ¬ digitLink digit <:+: s

/-- What a recognizer of links finds: the links with a digit of one kind. -/
structure FindsLinks (after? : List Char → Option (List Char)) (p : Char → Bool) : Prop where
  found : ∀ s right, after? s = some right ↔ ∃ digit, p digit = true ∧ s = digitLink digit ++ right
  dot : p '.' = false

theorem afterFirstLink?_findsLinks : FindsLinks afterFirstLink? (· == '1') where
  found := by
    intro s right
    simp only [beq_iff_eq, exists_eq_left]
    rw [afterFirstLink?, List.isPrefixOf?_eq_some_iff_append_eq, eq_comm]
    rfl
  dot := rfl

theorem afterLink?_findsLinks : FindsLinks afterLink? isDecimalDigit where
  found := by
    intro s right
    constructor
    · intro h
      obtain ⟨rest, rfl⟩ := afterLink?_seesLinks.opening s (by rw [h]; exact Option.some_ne_none _)
      rw [afterLink?_linkOpening] at h
      cases rest with
      | nil => cases h
      | cons digit rest =>
          obtain ⟨hdigit, hlink⟩ := Option.ite_none_right_eq_some.mp h
          refine ⟨digit, hdigit, ?_⟩
          rw [← List.isPrefixOf?_eq_some_iff_append_eq.mp hlink, digitLink, List.append_assoc]
          rfl
    · rintro ⟨digit, hdigit, rfl⟩
      rw [digitLink, List.append_assoc, afterLink?_linkOpening]
      simp only [List.cons_append, hdigit, if_true]
      exact List.isPrefixOf?_eq_some_iff_append_eq.mpr rfl
  dot := rfl

namespace FindsLinks

variable {after? : List Char → Option (List Char)} {p : Char → Bool} {s left right : List Char}

theorem opening (h : FindsLinks after? p) (s : List Char) (hsome : after? s ≠ none) :
    linkOpening <+: s := by
  obtain ⟨right, hright⟩ := Option.ne_none_iff_exists'.mp hsome
  obtain ⟨digit, -, rfl⟩ := (h.found s right).mp hright
  exact ⟨digit :: ".prototype = ".toList ++ right, by rw [digitLink, List.append_assoc]⟩

/-- A text is cut nowhere exactly when it holds no link. -/
theorem splitLastBy?_eq_none_iff (h : FindsLinks after? p) :
    splitLastBy? after? s = none ↔ LinkFree p s := by
  rw [Text.splitLastBy?_eq_none_iff]
  constructor
  · rintro hnone digit hdigit ⟨front, right, rfl⟩
    have hhere := hnone (digitLink digit ++ right) ⟨front, by rw [List.append_assoc]⟩
      (List.cons_ne_nil _ _)
    rw [(h.found _ right).mpr ⟨digit, hdigit, rfl⟩] at hhere
    cases hhere
  · intro hfree tail htail _
    rw [Option.eq_none_iff_forall_ne_some]
    intro right hright
    obtain ⟨digit, hdigit, rfl⟩ := (h.found tail right).mp hright
    exact hfree digit hdigit ((List.prefix_append _ right).isInfix.trans htail.isInfix)

/-- No link begins within a link. -/
theorem splitLastBy?_within (h : FindsLinks after? p) {digit : Char} (hdigit : p digit = true) :
    splitLastBy? after? ("$ctor".toList ++ [digit] ++ (".prototype = ".toList ++ right)) = none ↔
      LinkFree p right := by
  have hname : Unseen linkOpening ("$ctor".toList ++ [digit]) := by
    have hmark : '.' ∉ "$ctor".toList := by decide
    have hne : '.' ≠ digit := by
      rintro rfl
      rw [h.dot] at hdigit
      cases hdigit
    unfold linkOpening
    refine unseen_of_notMem fun hdot => ?_
    rcases List.mem_append.mp hdot with hletter | hlast
    · exact hmark hletter
    · exact hne (List.mem_singleton.mp hlast)
  have hprototype : Unseen linkOpening ".prototype = ".toList := by decide
  rw [splitLastBy?_unseen h.opening hname, splitLastBy?_unseen h.opening hprototype,
    Option.map_eq_none_iff, Option.map_eq_none_iff, h.splitLastBy?_eq_none_iff]

/-- A text is cut at a link behind which there is none. -/
theorem splitLastBy?_eq_some_iff (h : FindsLinks after? p) :
    splitLastBy? after? s = some (left, right) ↔
      ∃ digit, p digit = true ∧ s = left ++ (digitLink digit ++ right) ∧ LinkFree p right := by
  have hlink (digit : Char) : digitLink digit ++ right
      = '.' :: ("$ctor".toList ++ [digit] ++ (".prototype = ".toList ++ right)) := by
    rw [digitLink, linkOpening, List.append_assoc, List.append_assoc]
    rfl
  rw [Text.splitLastBy?_eq_some_iff]
  constructor
  · rintro ⟨c, rest, rfl, hfound, hnone⟩
    obtain ⟨digit, hdigit, heq⟩ := (h.found _ right).mp hfound
    refine ⟨digit, hdigit, by rw [heq], (h.splitLastBy?_within hdigit).mp ?_⟩
    rw [hlink] at heq
    rw [← (List.cons.inj heq).2]
    exact hnone
  · rintro ⟨digit, hdigit, rfl, hfree⟩
    refine ⟨'.', _, by rw [hlink], ?_, (h.splitLastBy?_within hdigit).mpr hfree⟩
    rw [← hlink]
    exact (h.found _ right).mpr ⟨digit, hdigit, rfl⟩

end FindsLinks

/-! ## Recognized lines -/

/-- The same text stands before and behind the last link to the first constructor, or before and
behind the last but one of all links. -/
inductive GivesPrototype : List Char → Prop
  | first {x : List Char} (free : LinkFree (· == '1') x) : GivesPrototype (x ++ (digitLink '1' ++ x))
  | chained {x source : List Char} {later earlier : Char} (hlater : isDecimalDigit later = true)
      (hearlier : isDecimalDigit earlier = true) (free : LinkFree isDecimalDigit x)
      (source_free : LinkFree isDecimalDigit source) :
      GivesPrototype ((x ++ (digitLink later ++ x)) ++ (digitLink earlier ++ source))

/-- A prototype of the first constructor reads the same on both sides of the last link to it. -/
theorem exists_cut_of_isFirstPrototype {body : List Char} (h : isFirstPrototype body = true) :
    ∃ source, splitLastBy? afterFirstLink? body = some (source, source) := by
  unfold isFirstPrototype at h
  cases hcut : splitLastBy? afterFirstLink? body with
  | none =>
      rw [hcut] at h
      cases h
  | some sides =>
      rw [hcut] at h
      obtain ⟨left, right⟩ := sides
      obtain rfl := beq_iff_eq.mp h
      exact ⟨left, rfl⟩

/-- A chained prototype reads the same on both sides of the last link but one. -/
theorem exists_cuts_of_isChainedPrototype {body : List Char} (h : isChainedPrototype body = true) :
    ∃ links rest source, splitLastBy? afterLink? body = some (links, rest) ∧
      splitLastBy? afterLink? links = some (source, source) := by
  unfold isChainedPrototype at h
  cases hcut : splitLastBy? afterLink? body with
  | none =>
      rw [hcut] at h
      cases h
  | some sides =>
      rw [hcut] at h
      obtain ⟨links, rest⟩ := sides
      dsimp only at h
      cases hlinks : splitLastBy? afterLink? links with
      | none =>
          rw [hlinks] at h
          cases h
      | some sides =>
          rw [hlinks] at h
          obtain ⟨left, right⟩ := sides
          obtain rfl := beq_iff_eq.mp h
          exact ⟨links, rest, left, rfl, hlinks⟩

theorem givesPrototype_iff {body : List Char} :
    GivesPrototype body ↔ (isFirstPrototype body || isChainedPrototype body) = true := by
  rw [Bool.or_eq_true]
  constructor
  · rintro (hfree | ⟨hlater, hearlier, hfree, hsource⟩)
    · left
      rw [isFirstPrototype, afterFirstLink?_findsLinks.splitLastBy?_eq_some_iff.mpr
        ⟨'1', rfl, rfl, hfree⟩]
      exact beq_self_eq_true _
    · right
      rw [isChainedPrototype, afterLink?_findsLinks.splitLastBy?_eq_some_iff.mpr
        ⟨_, hearlier, rfl, hsource⟩]
      dsimp only
      rw [afterLink?_findsLinks.splitLastBy?_eq_some_iff.mpr ⟨_, hlater, rfl, hfree⟩]
      exact beq_self_eq_true _
  · rintro (h | h)
    · obtain ⟨source, hcut⟩ := exists_cut_of_isFirstPrototype h
      obtain ⟨digit, hdigit, rfl, hfree⟩ :=
        afterFirstLink?_findsLinks.splitLastBy?_eq_some_iff.mp hcut
      obtain rfl := beq_iff_eq.mp hdigit
      exact .first hfree
    · obtain ⟨links, rest, source, hcut, hlinks⟩ := exists_cuts_of_isChainedPrototype h
      obtain ⟨earlier, hearlier, rfl, hsource⟩ :=
        afterLink?_findsLinks.splitLastBy?_eq_some_iff.mp hcut
      obtain ⟨later, hlater, rfl, hfree⟩ :=
        afterLink?_findsLinks.splitLastBy?_eq_some_iff.mp hlinks
      exact .chained hlater hearlier hfree hsource

/-- The line gives a secondary constructor its prototype, and it has no shape that is asked for
earlier. -/
def IsPrototypeLine (line : String) : Prop :=
  ¬ IsGlobalStatement line ∧ ¬ "\tss.setMetadata(".toList <+: line.toList ∧
    ∃ body, '\n' ∉ body ∧ line.toList = ['\t'] ++ body ++ ".prototype;".toList ∧ GivesPrototype body

variable {scope : Scope} {line : String}

/-- The recognizer of prototypes finds one shape only, on the lines that give a prototype. -/
theorem constructorPrototype?_eq_some_iff {shape : LineShape} :
    constructorPrototype? line.toList = some shape ↔
      shape = .constructorPrototype ∧
        ∃ body, '\n' ∉ body ∧ line.toList = ['\t'] ++ body ++ ".prototype;".toList ∧
          GivesPrototype body := by
  constructor
  · intro h
    unfold constructorPrototype? at h
    cases hcut : (between? ['\t'] ".prototype;".toList line.toList).filter onOneLine with
    | none =>
        rw [hcut] at h
        cases h
    | some body =>
        rw [hcut] at h
        obtain ⟨hgives, hshape⟩ := Option.ite_none_right_eq_some.mp h
        obtain ⟨hnewline, hline⟩ := between?_onOneLine_eq_some_iff.mp hcut
        exact ⟨(Option.some.inj hshape).symm, body, hnewline, hline, givesPrototype_iff.mpr hgives⟩
  · rintro ⟨rfl, body, hnewline, hline, hgives⟩
    rw [constructorPrototype?, between?_onOneLine_eq_some_iff.mpr ⟨hnewline, hline⟩]
    exact if_pos (givesPrototype_iff.mp hgives)

/-- A line without an earlier shape that is no prototype line is not recognized as one. -/
theorem constructorPrototype?_eq_none (hglobal : globalStatement? line.toList = none)
    (hmetadata : ¬ "\tss.setMetadata(".toList <+: line.toList) (h : ¬ IsPrototypeLine line) :
    constructorPrototype? line.toList = none := by
  rw [Option.eq_none_iff_forall_ne_some]
  intro shape hshape
  have hstatement : ¬ IsGlobalStatement line := by
    rw [← isSome_globalStatement?_iff, hglobal]
    exact Bool.false_ne_true
  exact h ⟨hstatement, hmetadata, (constructorPrototype?_eq_some_iff.mp hshape).2⟩

/-- What has the end of a prototype line is a metadata call or no boilerplate. -/
theorem boilerplate?_of_prototype_end (hmetadata : ¬ "\tss.setMetadata(".toList <+: line.toList)
    (hend : ".prototype;".toList <:+ line.toList) : boilerplate? line.toList = none := by
  have hlines : boilerplateLines.any (·.toList == line.toList) = false := by
    have hends : ∀ text ∈ boilerplateLines, ¬ ".prototype;".toList <:+ text.toList := by decide
    rw [List.any_eq_false]
    intro text htext heq
    exact hends text htext (beq_iff_eq.mp heq ▸ hend)
  have hcall : "\tss.setMetadata(".toList.isPrefixOf line.toList = false := by
    rw [Bool.eq_false_iff, ne_eq, List.isPrefixOf_iff_prefix]
    exact hmetadata
  rw [boilerplate?, hlines, hcall]
  rfl

/-- A line is recognized as the prototype of a secondary constructor exactly when the same text
stands on both sides of a link, whatever that text is. -/
theorem classify_eq_constructorPrototype_iff :
    classify scope line = some .constructorPrototype ↔ IsPrototypeLine line := by
  constructor
  · intro h
    refine ⟨fun hglobal => ?_, fun hmetadata => ?_,
      (constructorPrototype?_eq_some_iff.mp (recognizer_of_classify h)).2⟩
    · -- a statement on a global has one of two earlier shapes
      rcases shape_of_isGlobalStatement hglobal with hshape | ⟨target, value, hshape⟩
      · rw [hshape] at h
        cases h
      · rw [hshape] at h
        cases h
    · have hboilerplate : boilerplate? line.toList = some .boilerplate := by
        rw [boilerplate?, List.isPrefixOf_iff_prefix.mpr hmetadata, Bool.or_true]
        rfl
      unfold classify recognizers at h
      rw [List.findSome?_cons, hboilerplate] at h
      cases h
  · rintro ⟨hglobal, hmetadata, hprototype⟩
    have hanswer := constructorPrototype?_eq_some_iff.mpr ⟨rfl, hprototype⟩
    obtain ⟨body, -, hline, -⟩ := hprototype
    have hboilerplate := boilerplate?_of_prototype_end hmetadata ⟨['\t'] ++ body, hline.symm⟩
    have hnone : globalStatement? line.toList = none :=
      Option.not_isSome_iff_eq_none.mp (mt isSome_globalStatement?_iff.mp hglobal)
    have hassignment : globalAssignment? line.toList = none := by
      rw [globalAssignment?, hnone]
      rfl
    have hdirective : globalDirective? line.toList = none := by
      rw [globalDirective?, hnone]
      rfl
    unfold classify recognizers
    simp only [List.findSome?_cons, hboilerplate, hassignment, hdirective, hanswer]

end ClassRecovery.Dump
