import ClassRecovery.Proofs.Dump.GlobalStatement
import ClassRecovery.Proofs.Dump.Identifier

/-!
# Chains of constructor prototypes

A class with secondary constructors gives them its prototype in one line, `X.$ctorN.prototype = … =
X.prototype;`. The line is cut at its last links, the last one to the first constructor or the last
two with a number of one digit, and recognized if the parts before and behind a link agree. So not
every chain is recognized, and `classify_prototypeChain_iff` says which are.
-/

set_option autoImplicit false

namespace ClassRecovery.Dump

open Text

/-! ## Chains -/

/-- What the link to a secondary constructor begins with. -/
def linkOpening : List Char := '.' :: "$ctor".toList

/-- The link to the secondary constructor of this number. -/
def prototypeLink (number : Nat) : List Char :=
  linkOpening ++ ((toString number).toList ++ ".prototype = ".toList)

/-- The links of a variable, one for each number, and the variable they lead to. -/
def prototypeLinks (x : Identifier) (numbers : List Nat) : List Char :=
  numbers.flatMap (fun number => x.text.toList ++ prototypeLink number) ++ x.text.toList

/-- The line that gives the constructors of these numbers the prototype of the class. -/
def prototypeChain (x : Identifier) (numbers : List Nat) : String :=
  String.ofList ('\t' :: (prototypeLinks x numbers ++ ".prototype;".toList))

variable {x : Identifier} {numbers before later : List Nat} {number : Nat}

theorem prototypeLinks_nil : prototypeLinks x [] = x.text.toList := rfl

theorem prototypeLinks_append (before numbers : List Nat) :
    prototypeLinks x (before ++ numbers)
      = before.flatMap (fun number => x.text.toList ++ prototypeLink number)
        ++ prototypeLinks x numbers := by
  rw [prototypeLinks, List.flatMap_append, List.append_assoc]
  rfl

theorem prototypeLinks_cons (x : Identifier) (number : Nat) (numbers : List Nat) :
    prototypeLinks x (number :: numbers)
      = x.text.toList ++ (prototypeLink number ++ prototypeLinks x numbers) := by
  rw [prototypeLinks, List.flatMap_cons, List.append_assoc, List.append_assoc]
  rfl

/-! ## Numerals -/

theorem isDigit_of_mem_toString {c : Char} (h : c ∈ (toString number).toList) :
    c.isDigit = true := by
  have hdigits : (toString number).toList = Nat.toDigits 10 number := Nat.toList_repr
  rw [hdigits] at h
  exact Nat.isDigit_of_mem_toDigits (by decide) (by decide) h

/-- A number is read off its numeral, and the numeral off what it stands in front of. -/
theorem number_eq_of_append {number' : Nat} {rest rest' : List Char}
    (h : (toString number).toList ++ '.' :: rest = (toString number').toList ++ '.' :: rest') :
    number = number' := by
  -- the digits of a numeral go on to the dot
  have hnumeral (n : Nat) (rest : List Char) :
      ((toString n).toList ++ '.' :: rest).takeWhile Char.isDigit = Nat.toDigits 10 n := by
    rw [List.takeWhile_append_of_pos fun c hc => isDigit_of_mem_toString hc]
    have hdigits : (toString n).toList = Nat.toDigits 10 n := Nat.toList_repr
    rw [hdigits]
    exact List.append_nil _
  have hdigits : Nat.toDigits 10 number = Nat.toDigits 10 number' := by
    rw [← hnumeral number rest, h, hnumeral]
  calc number = Nat.ofDigitChars 10 (Nat.toDigits 10 number) 0 := Nat.ofDigitChars_ten_toDigits.symm
    _ = number' := by rw [hdigits, Nat.ofDigitChars_ten_toDigits]

theorem prototypeLink_append (number : Nat) (rest : List Char) :
    prototypeLink number ++ rest
      = linkOpening ++ ((toString number).toList ++ '.' :: ("prototype = ".toList ++ rest)) := by
  have hmark : ".prototype = ".toList = '.' :: "prototype = ".toList := by decide
  rw [prototypeLink, hmark, List.append_assoc, List.append_assoc]
  rfl

/-- A link is read off what it stands in front of. -/
theorem number_eq_of_link {number' : Nat} {rest rest' : List Char}
    (h : prototypeLink number ++ rest = prototypeLink number' ++ rest') : number = number' := by
  rw [prototypeLink_append, prototypeLink_append, List.append_cancel_left_eq] at h
  exact number_eq_of_append h

theorem prototypeLinks_inj {numbers' : List Nat} :
    prototypeLinks x numbers = prototypeLinks x numbers' ↔ numbers = numbers' := by
  constructor
  · intro h
    induction numbers generalizing numbers' with
    | nil =>
        cases numbers' with
        | nil => rfl
        | cons number' numbers' =>
            rw [prototypeLinks_nil, prototypeLinks_cons, List.self_eq_append_right] at h
            cases h
    | cons number numbers ih =>
        cases numbers' with
        | nil =>
            rw [prototypeLinks_nil, prototypeLinks_cons, eq_comm, List.self_eq_append_right] at h
            cases h
        | cons number' numbers' =>
            rw [prototypeLinks_cons, prototypeLinks_cons, List.append_cancel_left_eq] at h
            obtain rfl := number_eq_of_link h
            rw [List.append_cancel_left_eq] at h
            rw [ih h]
  · rintro rfl
    rfl

/-! ## Cutting at a link -/

/-- What a recognizer of links knows: it sees the links of some numbers, and no other place. -/
structure SeesLinks (after? : List Char → Option (List Char)) (p : Nat → Prop) : Prop where
  opening : ∀ s, after? s ≠ none → linkOpening <+: s
  seen : ∀ {number}, p number → ∀ rest, after? (prototypeLink number ++ rest) = some rest
  unseen : ∀ {number}, ¬ p number → ∀ rest, after? (prototypeLink number ++ rest) = none

namespace SeesLinks

variable {after? : List Char → Option (List Char)} {p : Nat → Prop}

/-- Where no link behind it is seen, a link is the place of the cut if it is seen itself. -/
theorem splitLastBy?_link (h : SeesLinks after? p) (number : Nat) {rest : List Char}
    (hrest : splitLastBy? after? rest = none) :
    splitLastBy? after? (prototypeLink number ++ rest)
      = (after? (prototypeLink number ++ rest)).map fun right => ([], right) := by
  have hname : Unseen linkOpening ("$ctor".toList ++ (toString number).toList) := by
    have hmark : '.' ∉ "$ctor".toList := by decide
    unfold linkOpening
    refine unseen_of_notMem fun hdot => ?_
    rcases List.mem_append.mp hdot with hletter | hdigit
    · exact hmark hletter
    · exact absurd (isDigit_of_mem_toString hdigit) (by decide)
  have hprototype : Unseen linkOpening ".prototype = ".toList := by decide
  have hlink : prototypeLink number ++ rest
      = '.' :: ("$ctor".toList ++ (toString number).toList
          ++ (".prototype = ".toList ++ rest)) := by
    rw [prototypeLink, linkOpening, List.append_assoc, List.append_assoc, List.append_assoc]
    rfl
  have htail : splitLastBy? after?
      ("$ctor".toList ++ (toString number).toList ++ (".prototype = ".toList ++ rest)) = none := by
    rw [splitLastBy?_unseen h.opening hname, splitLastBy?_unseen h.opening hprototype, hrest]
    rfl
  rw [hlink, splitLastBy?_cons_of_none htail]

theorem splitLastBy?_variable (h : SeesLinks after? p) (x : Identifier) (rest : List Char) :
    splitLastBy? after? (x.text.toList ++ rest)
      = (splitLastBy? after? rest).map fun cut => (x.text.toList ++ cut.1, cut.2) :=
  splitLastBy?_unseen h.opening (unseen_of_notMem (x.notMem (by decide))) rest

/-- Links none of which is seen are not cut. -/
theorem splitLastBy?_eq_none (h : SeesLinks after? p) (hnone : ∀ n ∈ numbers, ¬ p n) :
    splitLastBy? after? (prototypeLinks x numbers) = none := by
  induction numbers with
  | nil =>
      have hvariable := h.splitLastBy?_variable x []
      rwa [List.append_nil] at hvariable
  | cons number numbers ih =>
      rw [List.forall_mem_cons] at hnone
      rw [prototypeLinks_cons, h.splitLastBy?_variable, h.splitLastBy?_link number (ih hnone.2),
        h.unseen hnone.1]
      rfl

/-- Links are cut at the last one that is seen. -/
theorem splitLastBy?_eq_some (h : SeesLinks after? p) (hnumber : p number)
    (hlater : ∀ n ∈ later, ¬ p n) (before : List Nat) :
    splitLastBy? after? (prototypeLinks x (before ++ number :: later))
      = some (prototypeLinks x before, prototypeLinks x later) := by
  have hlink : splitLastBy? after? (prototypeLink number ++ prototypeLinks x later)
      = some ([], prototypeLinks x later) := by
    rw [h.splitLastBy?_link number (h.splitLastBy?_eq_none hlater), h.seen hnumber]
    rfl
  have hfront := splitLastBy?_append_of_some hlink
    (before.flatMap (fun number => x.text.toList ++ prototypeLink number) ++ x.text.toList)
  rw [prototypeLinks_append, prototypeLinks_cons, ← List.append_assoc, hfront, List.append_nil]
  rfl

/-- So they are cut nowhere or at the last number of that kind. -/
theorem splitLastBy?_cases (h : SeesLinks after? p) (x : Identifier) (numbers : List Nat) :
    ((∀ n ∈ numbers, ¬ p n) ∧ splitLastBy? after? (prototypeLinks x numbers) = none) ∨
      ∃ before number later, numbers = before ++ number :: later ∧ p number ∧
        (∀ n ∈ later, ¬ p n) ∧
        splitLastBy? after? (prototypeLinks x numbers)
          = some (prototypeLinks x before, prototypeLinks x later) := by
  induction numbers with
  | nil => exact .inl ⟨by simp, h.splitLastBy?_eq_none (by simp)⟩
  | cons first numbers ih =>
      -- the first number matters only if no later one is seen
      rcases ih with ⟨hnone, -⟩ | ⟨before, number, later, rfl, hnumber, hlater, -⟩
      · by_cases hfirst : p first
        · exact .inr ⟨[], first, numbers, rfl, hfirst, hnone,
            h.splitLastBy?_eq_some hfirst hnone []⟩
        · have hall : ∀ n ∈ first :: numbers, ¬ p n := List.forall_mem_cons.mpr ⟨hfirst, hnone⟩
          exact .inl ⟨hall, h.splitLastBy?_eq_none hall⟩
      · exact .inr ⟨first :: before, number, later, rfl, hnumber, hlater,
          h.splitLastBy?_eq_some hnumber hlater (first :: before)⟩

end SeesLinks

theorem afterFirstLink?_seesLinks : SeesLinks afterFirstLink? (· = 1) where
  opening := by
    intro s hsome
    obtain ⟨rest, hrest⟩ := Option.ne_none_iff_exists'.mp hsome
    have hbegins : linkOpening <+: ".$ctor1.prototype = ".toList := by decide
    exact hbegins.trans ⟨rest, List.isPrefixOf?_eq_some_iff_append_eq.mp hrest⟩
  seen := by
    rintro number rfl rest
    exact List.isPrefixOf?_eq_some_iff_append_eq.mpr rfl
  unseen := by
    intro number hnumber rest
    rw [Option.eq_none_iff_forall_ne_some]
    intro right hright
    have hlink : prototypeLink 1 ++ right = prototypeLink number ++ rest :=
      List.isPrefixOf?_eq_some_iff_append_eq.mp hright
    exact hnumber (number_eq_of_link hlink).symm

/-- What is found behind a link with a number of one digit. -/
theorem afterLink?_linkOpening (s : List Char) :
    afterLink? (linkOpening ++ s)
      = match s with
        | digit :: rest =>
          if isDecimalDigit digit then ".prototype = ".toList.isPrefixOf? rest else none
        | [] => none := by
  have hopening : ".$ctor".toList.isPrefixOf? (linkOpening ++ s) = some s :=
    List.isPrefixOf?_eq_some_iff_append_eq.mpr rfl
  rw [afterLink?, hopening]
  cases s <;> rfl

theorem isDecimalDigit_of_isDigit {c : Char} (h : c.isDigit = true) : isDecimalDigit c = true := by
  have hascii : isAscii c = true := by
    have hcode := toNat_of_isDigit h
    exact decide_eq_true (by omega)
  rw [isDecimalDigit, hascii, h]
  rfl

theorem afterLink?_seesLinks : SeesLinks afterLink? (· < 10) where
  opening := by
    intro s hsome
    unfold afterLink? at hsome
    cases hrest : ".$ctor".toList.isPrefixOf? s with
    | none => exact absurd (by rw [hrest]) hsome
    | some rest => exact ⟨rest, List.isPrefixOf?_eq_some_iff_append_eq.mp hrest⟩
  seen := by
    intro number hnumber rest
    have hdigits : (toString number).toList = [number.digitChar] := by
      rw [show (toString number).toList = Nat.toDigits 10 number from Nat.toList_repr,
        Nat.toDigits_of_lt_base hnumber]
    have hmem : number.digitChar ∈ (toString number).toList := by
      rw [hdigits]
      exact List.mem_singleton_self _
    have hdigit : isDecimalDigit number.digitChar = true :=
      isDecimalDigit_of_isDigit (isDigit_of_mem_toString hmem)
    rw [prototypeLink, List.append_assoc, afterLink?_linkOpening, hdigits]
    simp only [List.cons_append, List.nil_append, hdigit, if_true]
    exact List.isPrefixOf?_eq_some_iff_append_eq.mpr rfl
  unseen := by
    intro number hnumber rest
    have hlength : ¬ (toString number).toList.length ≤ 1 := by
      rw [show (toString number).toList = Nat.toDigits 10 number from Nat.toList_repr,
        Nat.length_toDigits_le_iff (by decide) (by decide)]
      exact hnumber
    rw [prototypeLink_append, afterLink?_linkOpening]
    have hall : ∀ c ∈ (toString number).toList, c.isDigit = true :=
      fun c hc => isDigit_of_mem_toString hc
    generalize (toString number).toList = numeral at hlength hall ⊢
    rcases numeral with _ | ⟨first, _ | ⟨second, more⟩⟩
    · exact absurd (Nat.zero_le 1) hlength
    · exact absurd le_rfl hlength
    · -- the second digit is no mark
      have hsecond : second ≠ '.' := by
        rintro rfl
        exact absurd (hall '.' (by simp)) (by decide)
      simp only [List.cons_append]
      split
      · rw [Option.eq_none_iff_forall_ne_some]
        intro right hright
        have happend := List.isPrefixOf?_eq_some_iff_append_eq.mp hright
        exact hsecond (List.cons.inj happend).1.symm
      · rfl

/-! ## Recognized chains -/

/-- The last 1 has the same numbers before and behind it. -/
def BalancedAtFirst (numbers : List Nat) : Prop :=
  ∃ around, 1 ∉ around ∧ numbers = around ++ 1 :: around

/-- The last two numbers of one digit have the same numbers before the first of them and between
the two. -/
def BalancedAtDigits (numbers : List Nat) : Prop :=
  ∃ around first second later, first < 10 ∧ second < 10 ∧ (∀ n ∈ around, ¬ n < 10) ∧
    (∀ n ∈ later, ¬ n < 10) ∧ numbers = (around ++ first :: around) ++ second :: later

theorem isFirstPrototype_iff :
    isFirstPrototype (prototypeLinks x numbers) = true ↔ BalancedAtFirst numbers := by
  constructor
  · intro h
    unfold isFirstPrototype at h
    rcases afterFirstLink?_seesLinks.splitLastBy?_cases x numbers with
      ⟨-, hcut⟩ | ⟨before, number, later, rfl, rfl, hlater, hcut⟩
    · rw [hcut] at h
      cases h
    · rw [hcut] at h
      obtain rfl := prototypeLinks_inj.mp (beq_iff_eq.mp h)
      exact ⟨before, fun hmem => hlater 1 hmem rfl, rfl⟩
  · rintro ⟨around, hone, rfl⟩
    have hnone : ∀ n ∈ around, ¬ n = 1 := by
      rintro n hn rfl
      exact hone hn
    rw [isFirstPrototype, afterFirstLink?_seesLinks.splitLastBy?_eq_some rfl hnone]
    exact beq_self_eq_true _

theorem isChainedPrototype_iff :
    isChainedPrototype (prototypeLinks x numbers) = true ↔ BalancedAtDigits numbers := by
  constructor
  · intro h
    unfold isChainedPrototype at h
    rcases afterLink?_seesLinks.splitLastBy?_cases x numbers with
      ⟨-, hcut⟩ | ⟨links, second, later, rfl, hsecond, hlater, hcut⟩
    · rw [hcut] at h
      cases h
    · rw [hcut] at h
      dsimp only at h
      -- what is before the last link is cut once more
      rcases afterLink?_seesLinks.splitLastBy?_cases x links with
        ⟨-, hcut'⟩ | ⟨before, first, between, rfl, hfirst, hbetween, hcut'⟩
      · rw [hcut'] at h
        cases h
      · rw [hcut'] at h
        obtain rfl := prototypeLinks_inj.mp (beq_iff_eq.mp h)
        exact ⟨before, first, second, later, hfirst, hsecond, hbetween, hlater, rfl⟩
  · rintro ⟨around, first, second, later, hfirst, hsecond, haround, hlater, rfl⟩
    rw [isChainedPrototype, afterLink?_seesLinks.splitLastBy?_eq_some hsecond hlater]
    dsimp only
    rw [afterLink?_seesLinks.splitLastBy?_eq_some hfirst haround]
    exact beq_self_eq_true _

/-! ## Classification -/

theorem toList_prototypeChain (x : Identifier) (numbers : List Nat) :
    (prototypeChain x numbers).toList
      = ['\t'] ++ prototypeLinks x numbers ++ ".prototype;".toList := by
  rw [prototypeChain, String.toList_ofList]
  rfl

theorem newline_notMem_prototypeLinks (x : Identifier) (numbers : List Nat) :
    '\n' ∉ prototypeLinks x numbers := by
  have hname : '\n' ∉ x.text.toList := x.notMem (by decide)
  have hlink (number : Nat) : '\n' ∉ prototypeLink number := by
    have hmark : '\n' ∉ linkOpening ∧ '\n' ∉ ".prototype = ".toList := by decide
    have hnumeral : '\n' ∉ (toString number).toList :=
      fun hmem => absurd (isDigit_of_mem_toString hmem) (by decide)
    simp only [prototypeLink, List.mem_append, not_or]
    exact ⟨hmark.1, hnumeral, hmark.2⟩
  simp only [prototypeLinks, List.mem_append, List.mem_flatMap, not_or, not_exists, not_and]
  exact ⟨fun number _ => ⟨hname, hlink number⟩, hname⟩

theorem newline_notMem_prototypeChain (x : Identifier) (numbers : List Nat) :
    '\n' ∉ (prototypeChain x numbers).toList := by
  have hfront : '\n' ∉ ['\t'] ∧ '\n' ∉ ".prototype;".toList := by decide
  simp only [toList_prototypeChain, List.mem_append, not_or]
  exact ⟨⟨hfront.1, newline_notMem_prototypeLinks x numbers⟩, hfront.2⟩

theorem constructorPrototype?_prototypeChain (x : Identifier) (numbers : List Nat) :
    constructorPrototype? (prototypeChain x numbers).toList = some .constructorPrototype ↔
      BalancedAtFirst numbers ∨ BalancedAtDigits numbers := by
  have hbody : (between? ['\t'] ".prototype;".toList (prototypeChain x numbers).toList).filter
      onOneLine = some (prototypeLinks x numbers) :=
    between?_onOneLine_eq_some_iff.mpr
      ⟨newline_notMem_prototypeLinks x numbers, toList_prototypeChain x numbers⟩
  rw [constructorPrototype?, hbody, ← isFirstPrototype_iff (x := x),
    ← isChainedPrototype_iff (x := x), ← Bool.or_eq_true]
  dsimp only
  split <;> simp_all

/-- A chain is the variable and, behind the first dot, a link or the end of the line. -/
theorem exists_prototypeChain_eq (x : Identifier) (numbers : List Nat) :
    ∃ c rest, (c = '$' ∨ c = 'p') ∧ (prototypeChain x numbers).toList
      = '\t' :: (x.text.toList ++ '.' :: c :: (rest ++ [';'])) := by
  cases numbers with
  | nil =>
      refine ⟨'p', "rototype".toList, .inr rfl, ?_⟩
      rw [toList_prototypeChain, prototypeLinks_nil]
      rfl
  | cons number numbers =>
      refine ⟨'$', "ctor".toList ++ ((toString number).toList ++ ".prototype = ".toList
        ++ (prototypeLinks x numbers ++ ".prototype".toList)), .inl rfl, ?_⟩
      rw [toList_prototypeChain, prototypeLinks_cons, prototypeLink, linkOpening]
      have hend : ".prototype;".toList = ".prototype".toList ++ [';'] := by decide
      rw [hend]
      simp only [List.append_assoc, List.cons_append]
      rfl

/-- The name at the head of a chain is the variable. -/
theorem takeWhile_prototypeChain (x : Identifier) (numbers : List Nat) :
    ((prototypeChain x numbers).toList.drop 1).takeWhile isIdent = x.text.toList := by
  obtain ⟨c, rest, -, hline⟩ := exists_prototypeChain_eq x numbers
  rw [hline, List.drop_one, List.tail_cons, takeWhile_append_cons x.isIdent_of_mem (by decide)]

theorem dropWhile_prototypeChain (x : Identifier) (numbers : List Nat) :
    ∃ c rest, (c = '$' ∨ c = 'p') ∧
      ((prototypeChain x numbers).toList.drop 1).dropWhile isIdent = '.' :: c :: rest := by
  obtain ⟨c, rest, hc, hline⟩ := exists_prototypeChain_eq x numbers
  refine ⟨c, rest ++ [';'], hc, ?_⟩
  rw [hline, List.drop_one, List.tail_cons, dropWhile_append_cons x.isIdent_of_mem (by decide)]

/-- No line of the module wrapper has a receiver. -/
theorem boilerplateLines_any_receiver (x : Identifier) (rest : List Char) :
    boilerplateLines.any (·.toList == '\t' :: (x.text.toList ++ '.' :: rest)) = false := by
  have hmembers : ∀ text ∈ boilerplateLines,
      ((text.toList.drop 1).dropWhile isIdent).head? ≠ some '.' := by decide
  rw [List.any_eq_false]
  intro text htext heq
  refine hmembers text htext ?_
  rw [beq_iff_eq.mp heq, List.drop_one, List.tail_cons,
    dropWhile_append_cons x.isIdent_of_mem (by decide)]
  rfl

/-- A chain is no line of the module wrapper, and it calls nothing. -/
theorem boilerplate?_prototypeChain (x : Identifier) (numbers : List Nat) :
    boilerplate? (prototypeChain x numbers).toList = none := by
  obtain ⟨c, rest, hc, htail⟩ := dropWhile_prototypeChain x numbers
  have hlines : boilerplateLines.any (·.toList == (prototypeChain x numbers).toList) = false := by
    obtain ⟨c, rest, -, hline⟩ := exists_prototypeChain_eq x numbers
    rw [hline, boilerplateLines_any_receiver]
  have hmetadata :
      "\tss.setMetadata(".toList.isPrefixOf (prototypeChain x numbers).toList = false := by
    rw [Bool.eq_false_iff, ne_eq, List.isPrefixOf_iff_prefix]
    rintro ⟨arguments, hcall⟩
    rw [← hcall] at htail
    have hhead : 's' = c := (List.cons.inj (List.cons.inj htail).2).1
    subst hhead
    exact absurd hc (by decide)
  rw [boilerplate?, hlines, hmetadata]
  rfl

/-- A chain is a statement on a global if its variable is called `global`. -/
theorem isGlobalStatement_prototypeChain_iff (x : Identifier) (numbers : List Nat) :
    IsGlobalStatement (prototypeChain x numbers) ↔ x.text = "global" := by
  constructor
  · rintro ⟨text, -, hline⟩
    have hvariable := takeWhile_prototypeChain x numbers
    rw [hline] at hvariable
    exact String.toList_inj.mp hvariable.symm
  · intro hglobal
    obtain ⟨c, rest, -, hline⟩ := exists_prototypeChain_eq x numbers
    have hnewline := newline_notMem_prototypeChain x numbers
    rw [hline, hglobal] at hnewline
    refine ⟨c :: rest, fun hmem => hnewline ?_, ?_⟩
    · simpa using hmem
    · rw [hline, hglobal]
      rfl

/-- A chain is recognized in any scope exactly when its variable is not called `global`, which makes
it an assignment, and its numbers are balanced where it is cut. -/
theorem classify_prototypeChain_iff (scope : Scope) (x : Identifier) (numbers : List Nat) :
    classify scope (prototypeChain x numbers) = some .constructorPrototype ↔
      x.text ≠ "global" ∧ (BalancedAtFirst numbers ∨ BalancedAtDigits numbers) := by
  rw [ne_eq, ← isGlobalStatement_prototypeChain_iff x numbers,
    ← constructorPrototype?_prototypeChain x numbers]
  constructor
  · intro h
    -- a statement on a global has one of two earlier shapes
    refine ⟨fun hglobal => ?_, recognizer_of_classify h⟩
    rcases shape_of_isGlobalStatement hglobal with hshape | ⟨target, value, hshape⟩
    · rw [hshape] at h
      cases h
    · rw [hshape] at h
      cases h
  · rintro ⟨hglobal, hanswer⟩
    have hnone : globalStatement? (prototypeChain x numbers).toList = none :=
      Option.not_isSome_iff_eq_none.mp (mt isSome_globalStatement?_iff.mp hglobal)
    have hassignment : globalAssignment? (prototypeChain x numbers).toList = none := by
      rw [globalAssignment?, hnone]
      rfl
    have hdirective : globalDirective? (prototypeChain x numbers).toList = none := by
      rw [globalDirective?, hnone]
      rfl
    unfold classify recognizers
    simp only [List.findSome?_cons, boilerplate?_prototypeChain, hassignment, hdirective, hanswer]

/-- The variable of a class with secondary constructors. -/
def variableA : Identifier where
  text := "$A"
  ne_nil := by decide
  all_isIdent := by decide

/-- Three constructors are too many: before the second link stands the third constructor, and behind
it none. -/
theorem classify_prototypeChain_of_three :
    prototypeChain variableA [3, 2, 1]
        = "\t$A.$ctor3.prototype = $A.$ctor2.prototype = $A.$ctor1.prototype = $A.prototype;" ∧
      classify {} (prototypeChain variableA [3, 2, 1]) = none ∧
      ¬ ∀ (scope : Scope) (x : Identifier) (numbers : List Nat),
        numbers ≠ [] → (∀ n ∈ numbers, 0 < n) → (numbers.length = 1 → numbers = [1]) →
          classify scope (prototypeChain x numbers) = some .constructorPrototype := by
  have hline : prototypeChain variableA [3, 2, 1]
      = "\t$A.$ctor3.prototype = $A.$ctor2.prototype = $A.$ctor1.prototype = $A.prototype;" := by
    decide
  have hnone : classify {} (prototypeChain variableA [3, 2, 1]) = none := by
    rw [hline]
    decide +kernel
  refine ⟨hline, hnone, fun h => ?_⟩
  have hsome := h {} variableA [3, 2, 1] (by decide) (by decide) (by decide)
  rw [hnone] at hsome
  cases hsome

end ClassRecovery.Dump
