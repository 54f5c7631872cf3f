import ClassRecovery.Proofs.Dump.PrototypeLine

/-!
# Lines about a member

A line `X.m` with something behind it, indented by a tab, is a member of a class, or a bulk call if
`X` is `ss`. Unless it is about a global, calls for metadata or gives a prototype, only the
recognizers of these shapes can answer it (`classify_memberLine`).
-/

set_option autoImplicit false

namespace ClassRecovery.Dump

open Text

variable {x m : Identifier} {front rest : List Char} {c : Char}

/-! ## The receiver -/

/-- What begins with a run of identifier characters and another one behind it begins a text only if
that is the identifier at its head. -/
theorem head_of_front (y more : List Char) (d : Char)
    (hfront : front = y ++ d :: more ∧ y.all isIdent = true ∧ isIdent d = false)
    (hc : isIdent c = false) (h : front <+: x.text.toList ++ c :: rest) :
    y = x.text.toList ∧ d = c ∧ more <+: rest := by
  obtain ⟨rfl, hy, hd⟩ := hfront
  exact (prefix_append_cons_iff (List.all_eq_true.mp hy) hd x.isIdent_of_mem hc).mp h

/-- So a line with a receiver begins with the receiver, or with less. -/
theorem receiver_of_front (y more : List Char) (d : Char)
    (hfront : front = '\t' :: (y ++ d :: more) ∧ y.all isIdent = true ∧ isIdent d = false)
    (h : front <+: '\t' :: (x.text.toList ++ '.' :: rest)) :
    y = x.text.toList ∧ d = '.' ∧ more <+: rest := by
  obtain ⟨rfl, hfront⟩ := hfront
  rw [List.cons_prefix_cons] at h
  exact head_of_front y more d ⟨rfl, hfront⟩ (by decide) h.2

/-- A line with a receiver is on a global only if that is its receiver. -/
theorem globalStatement?_receiver (hx : x.text ≠ "global") :
    globalStatement? ('\t' :: (x.text.toList ++ '.' :: rest)) = none := by
  have hfront : ¬ "\tglobal.".toList <+: '\t' :: (x.text.toList ++ '.' :: rest) := fun h =>
    hx (String.toList_inj.mp (receiver_of_front "global".toList [] '.' (by decide) h).1.symm)
  rw [globalStatement?, between?_eq_none_of_front hfront]
  rfl

/-- A line with a receiver is no rule between classes. -/
theorem separator?_receiver (x : Identifier) (rest : List Char) :
    separator? ('\t' :: (x.text.toList ++ '.' :: rest)) = none := by
  refine if_neg fun heq => ?_
  have hrule : separatorLine <+: '\t' :: (x.text.toList ++ '.' :: rest) :=
    (beq_iff_eq.mp heq).symm ▸ List.prefix_rfl
  exact x.ne_nil (receiver_of_front [] (List.replicate 79 '/') '/' (by decide) hrule).1.symm

/-- A line with a receiver is no comment. -/
theorem className?_receiver (x : Identifier) (rest : List Char) :
    className? ('\t' :: (x.text.toList ++ '.' :: rest)) = none := by
  have hfront : "\t// ".toList.isPrefixOf? ('\t' :: (x.text.toList ++ '.' :: rest)) = none := by
    rw [Option.eq_none_iff_forall_ne_some]
    intro qualified hqualified
    have hcomment : "\t// ".toList <+: '\t' :: (x.text.toList ++ '.' :: rest) :=
      ⟨qualified, List.isPrefixOf?_eq_some_iff_append_eq.mp hqualified⟩
    exact x.ne_nil (receiver_of_front [] "/ ".toList '/' (by decide) hcomment).1.symm
  rw [className?, hfront]
  rfl

/-- A line with a receiver declares no variable. -/
theorem constructor?_receiver (scope : Scope) (x : Identifier) (rest : List Char) :
    constructor? scope ('\t' :: (x.text.toList ++ '.' :: rest)) = none := by
  have hfront : ¬ "\tvar ".toList <+: '\t' :: (x.text.toList ++ '.' :: rest) := fun h =>
    absurd (receiver_of_front "var".toList [] ' ' (by decide) h).2.1 (by decide)
  unfold constructor?
  split
  · rw [between?_eq_none_of_front hfront]
    rfl
  · rfl

/-- A line with a receiver opens no initializer block. -/
theorem initializerBlock?_receiver (x : Identifier) (rest : List Char) :
    initializerBlock? ('\t' :: (x.text.toList ++ '.' :: rest)) = none := by
  refine if_neg fun heq => ?_
  have hopens : "\t(function() \x7b".toList <+: '\t' :: (x.text.toList ++ '.' :: rest) :=
    (beq_iff_eq.mp heq).symm ▸ List.prefix_rfl
  exact x.ne_nil
    (receiver_of_front [] "function() \x7b".toList '(' (by decide) hopens).1.symm

/-! ## The member -/

/-- A line about a member of a global begins with the member of that name. -/
theorem globalBlock?_member (hx : x.text ≠ "global") (hc : isIdent c = false) (hdot : c ≠ '.') :
    globalBlock? ('\t' :: (x.text.toList ++ '.' :: (m.text.toList ++ c :: rest))) = none := by
  have hglobal : ¬ "\tglobal.".toList
      <+: '\t' :: (x.text.toList ++ '.' :: (m.text.toList ++ c :: rest)) := fun h =>
    hx (String.toList_inj.mp (receiver_of_front "global".toList [] '.' (by decide) h).1.symm)
  have hplugin : ¬ "\t$.fn.".toList
      <+: '\t' :: (x.text.toList ++ '.' :: (m.text.toList ++ c :: rest)) := by
    intro h
    have hmember := (receiver_of_front "$".toList "fn.".toList '.' (by decide) h).2.2
    -- the member `fn` would be followed by a dot
    exact hdot (head_of_front "fn".toList [] '.' (by decide) hc hmember).2.1.symm
  simp only [globalBlock?, between?_eq_none_of_front hglobal, between?_eq_none_of_front hplugin]
  rfl

/-- A line about a member calls for metadata only as the member of that name. -/
theorem not_metadata_member (hc : isIdent c = false)
    (hmetadata : x.text = "ss" → m.text = "setMetadata" → c ≠ '(') :
    ¬ "\tss.setMetadata(".toList
      <+: '\t' :: (x.text.toList ++ '.' :: (m.text.toList ++ c :: rest)) := by
  intro h
  obtain ⟨hx, -, hmember⟩ := receiver_of_front "ss".toList "setMetadata(".toList '.' (by decide) h
  obtain ⟨hm, hcall, -⟩ := head_of_front "setMetadata".toList [] '(' (by decide) hc hmember
  exact hmetadata (String.toList_inj.mp hx.symm) (String.toList_inj.mp hm.symm) hcall.symm

/-- So it is boilerplate only then. -/
theorem boilerplate?_member (hc : isIdent c = false)
    (hmetadata : x.text = "ss" → m.text = "setMetadata" → c ≠ '(') :
    boilerplate? ('\t' :: (x.text.toList ++ '.' :: (m.text.toList ++ c :: rest))) = none := by
  have hcall : "\tss.setMetadata(".toList.isPrefixOf
      ('\t' :: (x.text.toList ++ '.' :: (m.text.toList ++ c :: rest))) = false := by
    rw [Bool.eq_false_iff, ne_eq, List.isPrefixOf_iff_prefix]
    exact not_metadata_member hc hmetadata
  rw [boilerplate?, boilerplateLines_any_receiver, hcall]
  rfl

/-- What can be recognized in a line about a member. -/
theorem classify_memberLine {scope : Scope} {line : String}
    (hline : line.toList = '\t' :: (x.text.toList ++ '.' :: (m.text.toList ++ c :: rest)))
    (hc : isIdent c = false) (hdot : c ≠ '.') (hglobal : x.text ≠ "global")
    (hmetadata : x.text = "ss" → m.text = "setMetadata" → c ≠ '(')
    (hprototype : constructorPrototype? line.toList = none) :
    classify scope line
      = [assembly?, staticMethod? scope, staticProperty? scope, classBlock?, classInline?,
          interfaceInline?, genericArity?, enumInline?].findSome? fun recognize =>
            recognize line.toList := by
  have hassignment : globalAssignment? line.toList = none := by
    rw [globalAssignment?, hline, globalStatement?_receiver hglobal]
    rfl
  have hdirective : globalDirective? line.toList = none := by
    rw [globalDirective?, hline, globalStatement?_receiver hglobal]
    rfl
  have hboilerplate : boilerplate? line.toList = none := by
    rw [hline, boilerplate?_member hc hmetadata]
  have hblock : globalBlock? line.toList = none := by
    rw [hline, globalBlock?_member hglobal hc hdot]
  have hseparator : separator? line.toList = none := by rw [hline, separator?_receiver]
  have hcomment : className? line.toList = none := by rw [hline, className?_receiver]
  have hvariable : constructor? scope line.toList = none := by rw [hline, constructor?_receiver]
  have hinitializer : initializerBlock? line.toList = none := by
    rw [hline, initializerBlock?_receiver]
  simp only [classify, recognizers, List.findSome?_cons, List.findSome?_nil, hassignment,
    hdirective, hboilerplate, hprototype, hblock, hseparator, hcomment, hvariable, hinitializer]

/-! ## Members of the class in scope -/

/-- The variable of the scope is an identifier, if there is one. -/
def Scope.Named (scope : Scope) : Prop :=
  ∀ varId, scope.varId = some varId → ∃ x : Identifier, x.text = varId

variable {scope : Scope}

theorem identifier?_eq (m : Identifier) (hc : isIdent c = false) :
    identifier? (m.text.toList ++ c :: rest) = some (m.text.toList, c :: rest) := by
  have hne : m.text.toList.isEmpty = false := by
    rw [List.isEmpty_eq_false_iff]
    exact m.ne_nil
  simp only [identifier?, takeWhile_append_cons m.isIdent_of_mem hc,
    dropWhile_append_cons m.isIdent_of_mem hc, hne]
  rfl

/-- What stands behind the variable of the scope and a dot. -/
theorem staticMember?_eq_some_iff {varId : String} (h : scope.varId = some varId)
    {line member : List Char} :
    staticMember? scope line = some member ↔ line = '\t' :: (varId.toList ++ '.' :: member) := by
  have hmember : staticMember? scope line = ('\t' :: varId.toList ++ ['.']).isPrefixOf? line := by
    rw [staticMember?, h]
    rfl
  rw [hmember, List.isPrefixOf?_eq_some_iff_append_eq, List.append_assoc, eq_comm]
  rfl

/-- Behind the receiver, a line is looked at only if that is the variable of the scope. -/
theorem staticMember?_receiver (hscope : scope.Named) (x : Identifier) (rest : List Char) :
    staticMember? scope ('\t' :: (x.text.toList ++ '.' :: rest)) = none ∨
      staticMember? scope ('\t' :: (x.text.toList ++ '.' :: rest)) = some rest := by
  rw [or_iff_not_imp_left]
  intro hsome
  obtain ⟨member, hmember⟩ := Option.ne_none_iff_exists'.mp hsome
  obtain ⟨varId, hvarId, -⟩ := Option.bind_eq_some_iff.mp hmember
  obtain ⟨y, rfl⟩ := hscope varId hvarId
  have hline := (List.cons.inj ((staticMember?_eq_some_iff hvarId).mp hmember)).2
  rw [append_cons_inj x.isIdent_of_mem (by decide) y.isIdent_of_mem (by decide)] at hline
  rw [hmember, hline.2.2]

/-- A call assigns nothing to a member. -/
theorem static_of_call (hscope : scope.Named) (x m : Identifier) (rest : List Char) :
    staticMethod? scope ('\t' :: (x.text.toList ++ '.' :: (m.text.toList ++ '(' :: rest))) = none ∧
      staticProperty? scope ('\t' :: (x.text.toList ++ '.' :: (m.text.toList ++ '(' :: rest)))
        = none := by
  simp only [staticMethod?, staticProperty?, Option.bind_eq_bind]
  -- if the class is called `ss` itself, the call is read as far as its name
  rcases staticMember?_receiver hscope x (m.text.toList ++ '(' :: rest) with hnone | hsome
  · rw [hnone]
    exact ⟨rfl, rfl⟩
  · rw [hsome, Option.bind_some, Option.bind_some, identifier?_eq m (by decide)]
    exact ⟨rfl, rfl⟩

/-- What can be recognized in a bulk call. -/
theorem classify_call {line : String} {body back : List Char} (hscope : scope.Named)
    (hline : line.toList = "\tss.".toList ++ (m.text.toList ++ '(' :: body) ++ back)
    (hname : m.text ≠ "setMetadata")
    (hback : ¬ back <:+ ".prototype;".toList ∧ ¬ ".prototype;".toList <:+ back) :
    classify scope line
      = [assembly?, classBlock?, classInline?, interfaceInline?, genericArity?,
          enumInline?].findSome? fun recognize => recognize line.toList := by
  let ss : Identifier := ⟨"ss", by decide, by decide⟩
  have hline' : line.toList
      = '\t' :: (ss.text.toList ++ '.' :: (m.text.toList ++ '(' :: (body ++ back))) := by
    have hfront : "\tss.".toList = '\t' :: (ss.text.toList ++ ['.']) := by decide
    rw [hline, hfront]
    simp only [List.append_assoc, List.cons_append, List.nil_append]
  have hprototype : constructorPrototype? line.toList = none := by
    rw [constructorPrototype?, between?_eq_none_of_back (not_suffix_of_back ⟨_, hline.symm⟩ hback)]
    rfl
  obtain ⟨hmethod, hproperty⟩ := static_of_call hscope ss m (body ++ back)
  rw [← hline'] at hmethod hproperty
  rw [classify_memberLine hline' (by decide) (by decide) (by decide) (fun _ h => absurd h hname)
    hprototype]
  simp only [List.findSome?_cons, hmethod, hproperty]

end ClassRecovery.Dump
