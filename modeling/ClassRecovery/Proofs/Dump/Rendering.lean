import ClassRecovery.Proofs.Dump.MemberLine
import ClassRecovery.Proofs.Dump.MethodBlock
import ClassRecovery.Proofs.Dump.Numeral

/-!
# Lines as the generator writes them

`Rendered scope line shape` says how each shape that carries data is written, from the data alone,
and under which conditions on the free parts the data can be read back. Such a line is classified as
its shape in every scope whose variable is an identifier, unless it reads as a prototype
(`classify_rendered`).
-/

set_option autoImplicit false

namespace ClassRecovery.Dump

open Text

/-- What a call on a generic class or interface begins with. -/
def genericFronts : List String := ["\tss.initGenericClass(", "\tss.initGenericInterface("]

/-- Members and trailer can be told apart on the line of an inline call. -/
structure InlineParts (members trailer : String) : Prop where
  members_line : '\n' ∉ members.toList
  trailer_line : '\n' ∉ trailer.toList
  mark : ¬ memberListMark <:+: members.toList
  brace : '\x7d' ∉ trailer.toList

/-- How a line is written that has this shape. A numeral that is no positive number of 32 bits gives
a call without shape. -/
inductive Rendered (scope : Scope) : String → Option LineShape → Prop
  | className {q : String} (hq : '\n' ∉ q.toList) :
      Rendered scope ("\t// " ++ q) (some (.className q))
  | assembly {name : String} (hname : '\n' ∉ name.toList) :
      Rendered scope ("\tss.initAssembly($asm, '" ++ name ++ "');") (some (.assembly name))
  | globalAssignment {target value : String} (htarget : '\n' ∉ target.toList)
      (hvalue : '\n' ∉ value.toList) (hlast : ¬ " = ".toList <:+: ' ' :: value.toList) :
      Rendered scope ("\tglobal." ++ target ++ " = " ++ value ++ ";")
        (some (.globalAssignment target value))
  | classBlock (v : Identifier) :
      Rendered scope ("\tss.initClass(" ++ v.text ++ ", $asm, \x7b") (some (.classBlock v.text))
  | classInline (v : Identifier) {members trailer : String} (parts : InlineParts members trailer) :
      Rendered scope
        ("\tss.initClass(" ++ v.text ++ ", $asm, \x7b" ++ members ++ "\x7d" ++ trailer ++ ");")
        (some (.classInline v.text members trailer))
  | interfaceInline (v : Identifier) {members trailer : String} (parts : InlineParts members trailer) :
      Rendered scope
        ("\tss.initInterface(" ++ v.text ++ ", $asm, \x7b" ++ members ++ "\x7d" ++ trailer ++ ");")
        (some (.interfaceInline v.text members trailer))
  | enumInline (v : Identifier) {members : String} (flags : Bool) (hmembers : '\n' ∉ members.toList)
      (hmark : ¬ memberListMark <:+: members.toList) :
      Rendered scope
        ("\tss.initEnum(" ++ v.text ++ ", $asm, \x7b" ++ members
          ++ (if flags then "\x7d, true" else "\x7d") ++ ");")
        (some (.enumInline v.text members flags))
  | genericArity {front : String} (hfront : front ∈ genericFronts) (v : Identifier)
      {number : UInt32} (hnumber : 0 < number) :
      Rendered scope (front ++ v.text ++ ", $asm, " ++ toString number.toNat ++ ");")
        (some (.genericArity v.text number))
  | otherNumeral {front : String} (hfront : front ∈ genericFronts) (v : Identifier)
      {digits : String} (hdigits : ∀ c ∈ digits.toList, c.isDigit = true)
      (hother : ∀ number : UInt32, 0 < number → digits ≠ toString number.toNat) :
      Rendered scope (front ++ v.text ++ ", $asm, " ++ digits ++ ");") none
  | constructor (hclass : scope.hasClass = true) (v : Identifier) (params : List Identifier) :
      Rendered scope ("\tvar " ++ v.text ++ " = function(" ++ joinedNames params ++ ") \x7b")
        (some (.constructor v.text (joinedNames params)))
  | staticMethod {x : Identifier} (hx : scope.varId = some x.text) (hglobal : x.text ≠ "global")
      (m : Identifier) (params : List Identifier) :
      Rendered scope
        ("\t" ++ x.text ++ "." ++ m.text ++ " = function(" ++ joinedNames params ++ ") \x7b")
        (some (.staticMethod m.text (joinedNames params)))
  | staticProperty {x : Identifier} (hx : scope.varId = some x.text) (hglobal : x.text ≠ "global")
      (m : Identifier) {value : String} (hvalue : '\n' ∉ value.toList) :
      Rendered scope ("\t" ++ x.text ++ "." ++ m.text ++ " = " ++ value ++ ";")
        (some (.staticProperty m.text value))

variable {scope : Scope} {line : String} {v x m : Identifier}

/-! ## Bulk calls -/

theorem classify_assembly (hscope : scope.Named) {name : String} (hname : '\n' ∉ name.toList)
    (hline : line.toList = "\tss.initAssembly($asm, '".toList ++ name.toList ++ "');".toList) :
    classify scope line = some (.assembly name) := by
  have hcall : line.toList = "\tss.".toList
      ++ ("initAssembly".toList ++ '(' :: ("$asm, '".toList ++ name.toList)) ++ "');".toList := hline
  have hanswer : assembly? line.toList = some (.assembly name) := by
    rw [assembly?, between?_onOneLine_eq_some_iff.mpr ⟨hname, hline⟩, Option.map_some,
      String.ofList_toList]
  rw [classify_call hscope (m := ⟨"initAssembly", by decide, by decide⟩) hcall (by decide)
    (by decide),
    List.findSome?_cons, hanswer]

theorem classify_classBlock (hscope : scope.Named)
    (hline : line.toList = "\tss.initClass(".toList ++ v.text.toList ++ memberListMark) :
    classify scope line = some (.classBlock v.text) := by
  have hcall : line.toList
      = "\tss.".toList ++ ("initClass".toList ++ '(' :: v.text.toList) ++ memberListMark := hline
  have hassembly : assembly? line.toList = none := by
    rw [hcall]
    rfl
  have hanswer : classBlock? line.toList = some (.classBlock v.text) := by
    rw [classBlock?, between?_onOneLine_eq_some_iff.mpr ⟨v.notMem (by decide), hline⟩,
      Option.map_some, String.ofList_toList]
  rw [classify_call hscope (m := ⟨"initClass", by decide, by decide⟩) hcall (by decide)
    (by decide)]
  simp only [List.findSome?_cons, hassembly, hanswer]

/-- A call is cut where its member list begins, if no mark is in the list. -/
theorem splitLast?_memberListMark (varId : List Char) {members : List Char}
    (hmark : ¬ memberListMark <:+: members) :
    splitLast? memberListMark (varId ++ (memberListMark ++ members)) = some (varId, members) := by
  have hopening : memberListMark = ',' :: " $asm, \x7b".toList := by decide
  rw [hopening] at hmark ⊢
  exact splitLast?_eq_some_iff_overlap.mpr
    ⟨rfl, mt (infix_append_of_unseen (by decide)).mp hmark⟩

/-- What is read off an inline call: the member list ends at the last brace. -/
theorem bulkCall?_eq {front members trailer : String} {varId line : List Char}
    (hline : line = front.toList
      ++ (varId ++ (memberListMark ++ members.toList) ++ '\x7d' :: trailer.toList) ++ ");".toList)
    (hvarId : '\n' ∉ varId) (parts : InlineParts members trailer) :
    bulkCall? front line = some (varId, members.toList, trailer.toList) := by
  have hnewline :
      '\n' ∉ varId ++ (memberListMark ++ members.toList) ++ '\x7d' :: trailer.toList := by
    have hmark : '\n' ∉ memberListMark := by decide
    simp [hvarId, hmark, parts.members_line, parts.trailer_line]
  have hlast : splitLast? ['\x7d']
        (varId ++ (memberListMark ++ members.toList) ++ '\x7d' :: trailer.toList)
      = some (varId ++ (memberListMark ++ members.toList), trailer.toList) := by
    refine (splitLast?_eq_some_iff List.not_mem_nil).mpr ⟨rfl, fun hwithin => parts.brace ?_⟩
    exact hwithin.subset List.mem_cons_self
  simp only [bulkCall?, Option.bind_eq_bind, between?_onOneLine_eq_some_iff.mpr ⟨hnewline, hline⟩,
    Option.bind_some, hlast, splitLast?_memberListMark varId parts.mark]

theorem classify_classInline (hscope : scope.Named) {members trailer : String}
    (parts : InlineParts members trailer)
    (hline : line.toList = "\tss.initClass(".toList
      ++ (v.text.toList ++ (memberListMark ++ members.toList) ++ '\x7d' :: trailer.toList)
      ++ ");".toList) :
    classify scope line = some (.classInline v.text members trailer) := by
  have hcall : line.toList = "\tss.".toList ++ ("initClass".toList ++ '(' ::
      (v.text.toList ++ (memberListMark ++ members.toList) ++ '\x7d' :: trailer.toList))
        ++ ");".toList := hline
  have hassembly : assembly? line.toList = none := by
    rw [hcall]
    rfl
  -- a block has the same front, but nothing behind the mark
  have hblock : classBlock? line.toList = none := by
    have hmark : ¬ memberListMark <:+ line.toList :=
      not_suffix_of_back ⟨_, hline.symm⟩ (by decide)
    rw [classBlock?, between?_eq_none_of_back hmark]
    rfl
  have hanswer : classInline? line.toList = some (.classInline v.text members trailer) := by
    rw [classInline?, bulkCall?_eq hline (v.notMem (by decide)) parts]
    simp only [Option.map_some, String.ofList_toList]
  rw [classify_call hscope (m := ⟨"initClass", by decide, by decide⟩) hcall (by decide)
    (by decide)]
  simp only [List.findSome?_cons, hassembly, hblock, hanswer]

theorem classify_interfaceInline (hscope : scope.Named) {members trailer : String}
    (parts : InlineParts members trailer)
    (hline : line.toList = "\tss.initInterface(".toList
      ++ (v.text.toList ++ (memberListMark ++ members.toList) ++ '\x7d' :: trailer.toList)
      ++ ");".toList) :
    classify scope line = some (.interfaceInline v.text members trailer) := by
  have hcall : line.toList = "\tss.".toList ++ ("initInterface".toList ++ '(' ::
      (v.text.toList ++ (memberListMark ++ members.toList) ++ '\x7d' :: trailer.toList))
        ++ ");".toList := hline
  have hearlier : assembly? line.toList = none ∧ classBlock? line.toList = none ∧
      classInline? line.toList = none := by
    rw [hcall]
    exact ⟨rfl, rfl, rfl⟩
  have hanswer : interfaceInline? line.toList = some (.interfaceInline v.text members trailer) := by
    rw [interfaceInline?, bulkCall?_eq hline (v.notMem (by decide)) parts]
    simp only [Option.map_some, String.ofList_toList]
  rw [classify_call hscope (m := ⟨"initInterface", by decide, by decide⟩) hcall (by decide)
    (by decide)]
  simp only [List.findSome?_cons, hearlier, hanswer]

theorem classify_enumInline (hscope : scope.Named) {members : String} (flags : Bool)
    (hmembers : '\n' ∉ members.toList) (hmark : ¬ memberListMark <:+: members.toList)
    (hline : line.toList = "\tss.initEnum(".toList
      ++ (v.text.toList ++ (memberListMark ++ members.toList)
        ++ (if flags then "\x7d, true" else "\x7d").toList) ++ ");".toList) :
    classify scope line = some (.enumInline v.text members flags) := by
  have hcall : line.toList = "\tss.".toList ++ ("initEnum".toList ++ '(' ::
      (v.text.toList ++ (memberListMark ++ members.toList)
        ++ (if flags then "\x7d, true" else "\x7d").toList)) ++ ");".toList := hline
  have hearlier : assembly? line.toList = none ∧ classBlock? line.toList = none ∧
      classInline? line.toList = none ∧ interfaceInline? line.toList = none ∧
      genericArity? line.toList = none := by
    rw [hcall]
    exact ⟨rfl, rfl, rfl, rfl, rfl⟩
  have hnewline : '\n' ∉ v.text.toList ++ (memberListMark ++ members.toList)
      ++ (if flags then "\x7d, true" else "\x7d").toList := by
    have hmark : '\n' ∉ memberListMark := by decide
    have hlast : '\n' ∉ (if flags then "\x7d, true" else "\x7d").toList := by
      cases flags <;> decide
    simp only [List.mem_append, not_or]
    exact ⟨⟨v.notMem (by decide), hmark, hmembers⟩, hlast⟩
  -- a list with a mark does not end with the brace
  have hcut (call : List Char) :
      ((['\x7d'].isSuffixOf? (call ++ (if flags then "\x7d, true" else "\x7d").toList)).map
          fun call => (call, false)).or
        (("\x7d, true".toList.isSuffixOf?
            (call ++ (if flags then "\x7d, true" else "\x7d").toList)).map
          fun call => (call, true)) = some (call, flags) := by
    cases flags with
    | false =>
        have hfound : ['\x7d'].isSuffixOf? (call ++ "\x7d".toList) = some call :=
          List.isSuffixOf?_eq_some_iff_append_eq.mpr rfl
        simp only [Bool.false_eq_true, if_false, hfound, Option.map_some, Option.some_or]
    | true =>
        have hnone : ['\x7d'].isSuffixOf? (call ++ "\x7d, true".toList) = none := by
          rw [Option.eq_none_iff_forall_ne_some]
          intro front hfront
          exact not_suffix_of_back (List.suffix_append call _) (by decide)
            ⟨front, List.isSuffixOf?_eq_some_iff_append_eq.mp hfront⟩
        have hfound : "\x7d, true".toList.isSuffixOf? (call ++ "\x7d, true".toList) = some call :=
          List.isSuffixOf?_eq_some_iff_append_eq.mpr rfl
        simp only [if_true, hnone, hfound, Option.map_none, Option.none_or, Option.map_some]
  have hanswer : enumInline? line.toList = some (.enumInline v.text members flags) := by
    simp only [enumInline?, Option.bind_eq_bind,
      between?_onOneLine_eq_some_iff.mpr ⟨hnewline, hline⟩, Option.bind_some, hcut,
      splitLast?_memberListMark _ hmark, String.ofList_toList]
  rw [classify_call hscope (m := ⟨"initEnum", by decide, by decide⟩) hcall (by decide)
    (by decide)]
  simp only [List.findSome?_cons, hearlier, hanswer]

/-- The number of type parameters is read from digits exactly if they are a numeral of a positive
number of 32 bits; otherwise the call has no shape. -/
theorem classify_generic (hscope : scope.Named) {front : String} (hfront : front ∈ genericFronts)
    {digits : List Char} (hdigits : ∀ c ∈ digits, c.isDigit = true)
    (hline : line.toList
      = front.toList ++ (v.text.toList ++ (", $asm, ".toList ++ digits)) ++ ");".toList) :
    classify scope line = (positive32? digits).map (.genericArity v.text) := by
  have hnewline : '\n' ∉ v.text.toList ++ (", $asm, ".toList ++ digits) := by
    have hmark : '\n' ∉ ", $asm, ".toList := by decide
    simp only [List.mem_append, not_or]
    exact ⟨v.notMem (by decide), hmark, fun hmem => absurd (hdigits _ hmem) (by decide)⟩
  have hcut : splitLast? ", $asm, ".toList (v.text.toList ++ (", $asm, ".toList ++ digits))
      = some (v.text.toList, digits) := by
    have hopening : ", $asm, ".toList = ',' :: (" $asm".toList ++ ", ".toList) := by decide
    rw [hopening]
    refine splitLast?_eq_some_iff_overlap.mpr ⟨rfl, fun hwithin => ?_⟩
    -- the end of a mark is the beginning of one, so the digits have to rule it out
    rw [List.append_assoc, infix_append_of_unseen (by decide)] at hwithin
    -- no dollar sign is among the digits
    have hdollar : '$' ∈ ", ".toList ++ digits := hwithin.subset (by decide)
    have hsep : '$' ∉ ", ".toList := by decide
    exact absurd (hdigits '$' ((List.mem_append.mp hdollar).resolve_left hsep)) (by decide)
  -- the two fronts are alike but for the name of the call
  have hfronts : front = "\tss.initGenericClass(" ∨ front = "\tss.initGenericInterface(" := by
    simpa [genericFronts] using hfront
  have hbody : ((between? "\tss.initGenericClass(".toList ");".toList line.toList).or
      (between? "\tss.initGenericInterface(".toList ");".toList line.toList)).filter onOneLine
      = some (v.text.toList ++ (", $asm, ".toList ++ digits)) := by
    rw [Option.filter_eq_some_iff, onOneLine_iff]
    refine ⟨?_, hnewline⟩
    rcases hfronts with rfl | rfl
    · rw [between?_eq_some_iff.mpr hline, Option.some_or]
    · have hinterface : "\tss.initGenericInterface(".toList <+: line.toList :=
        ⟨_, by rw [hline, List.append_assoc]⟩
      have hclass : ¬ "\tss.initGenericClass(".toList <+: line.toList :=
        not_prefix_of_front hinterface (by decide)
      rw [between?_eq_none_of_front hclass, Option.none_or, between?_eq_some_iff.mpr hline]
  have hanswer : genericArity? line.toList = (positive32? digits).map (.genericArity v.text) := by
    simp only [genericArity?, Option.bind_eq_bind, hbody, Option.bind_some, hcut,
      String.ofList_toList]
    cases positive32? digits <;> rfl
  have hcall : ∃ m : Identifier, m.text ≠ "setMetadata" ∧
      line.toList = "\tss.".toList ++ (m.text.toList ++ '(' ::
        (v.text.toList ++ (", $asm, ".toList ++ digits))) ++ ");".toList := by
    rw [hline]
    rcases hfronts with rfl | rfl
    · exact ⟨⟨"initGenericClass", by decide, by decide⟩, by decide, rfl⟩
    · exact ⟨⟨"initGenericInterface", by decide, by decide⟩, by decide, rfl⟩
  have hother : assembly? line.toList = none ∧ classBlock? line.toList = none ∧
      classInline? line.toList = none ∧ interfaceInline? line.toList = none ∧
      enumInline? line.toList = none := by
    rw [hline]
    rcases hfronts with rfl | rfl <;> exact ⟨rfl, rfl, rfl, rfl, rfl⟩
  obtain ⟨m, hname, hcall⟩ := hcall
  rw [classify_call hscope hcall hname (by decide)]
  simp only [List.findSome?_cons, List.findSome?_nil, hother, hanswer]
  cases positive32? digits <;> rfl

/-! ## Members of the class in scope -/

/-- A line on which a blank follows the member is no call, whatever its scope. -/
theorem assembly?_member {rest : List Char}
    (hline : line.toList = '\t' :: (x.text.toList ++ '.' :: (m.text.toList ++ ' ' :: rest))) :
    assembly? line.toList = none := by
  have hfront : ¬ "\tss.initAssembly($asm, '".toList <+: line.toList := by
    intro h
    rw [hline] at h
    have hmember :=
      (receiver_of_front "ss".toList "initAssembly($asm, '".toList '.' (by decide) h).2.2
    have hcall := head_of_front "initAssembly".toList "$asm, '".toList '(' (by decide)
      (by decide) hmember
    exact absurd hcall.2.1 (by decide)
  rw [assembly?, between?_eq_none_of_front hfront]
  rfl

theorem classify_staticMethod (hx : scope.varId = some x.text) (hglobal : x.text ≠ "global")
    {params : String} (hparams : '\n' ∉ params.toList)
    (hline : line.toList = '\t' :: (x.text.toList ++ '.' :: (m.text.toList
      ++ ' ' :: ("= function(".toList ++ params.toList ++ ") \x7b".toList)))) :
    classify scope line = some (.staticMethod m.text params) := by
  have hend : ") \x7b".toList <:+ line.toList := by
    refine ⟨'\t' :: (x.text.toList ++ '.' :: (m.text.toList
      ++ ' ' :: ("= function(".toList ++ params.toList))), ?_⟩
    rw [hline]
    simp only [List.append_assoc, List.cons_append]
  have hprototype : constructorPrototype? line.toList = none := by
    rw [constructorPrototype?, between?_eq_none_of_back (not_suffix_of_back hend (by decide))]
    rfl
  have hparts : (between? " = function(".toList ") \x7b".toList
      (' ' :: ("= function(".toList ++ params.toList ++ ") \x7b".toList))).filter onOneLine
      = some params.toList := between?_onOneLine_eq_some_iff.mpr ⟨hparams, rfl⟩
  have hanswer : staticMethod? scope line.toList = some (.staticMethod m.text params) := by
    simp only [staticMethod?, Option.bind_eq_bind, (staticMember?_eq_some_iff hx).mpr hline,
      Option.bind_some, identifier?_eq m (show isIdent ' ' = false by decide), hparts,
      String.ofList_toList]
  rw [classify_memberLine hline (by decide) (by decide) hglobal (fun _ _ => by decide) hprototype]
  simp only [List.findSome?_cons, assembly?_member hline, hanswer]

theorem classify_staticProperty (hx : scope.varId = some x.text) (hglobal : x.text ≠ "global")
    {value : String} (hvalue : '\n' ∉ value.toList)
    (hline : line.toList = '\t' :: (x.text.toList ++ '.' :: (m.text.toList
      ++ ' ' :: ("= ".toList ++ value.toList ++ [';']))))
    (h : ¬ IsPrototypeLine line) : classify scope line = some (.staticProperty m.text value) := by
  have hprototype : constructorPrototype? line.toList = none := by
    refine constructorPrototype?_eq_none ?_ ?_ h
    · rw [hline, globalStatement?_receiver hglobal]
    · rw [hline]
      exact not_metadata_member (by decide) fun _ _ => by decide
  have hend : ¬ ") \x7b".toList <:+ ' ' :: ("= ".toList ++ value.toList ++ [';']) :=
    not_suffix_of_back ⟨' ' :: ("= ".toList ++ value.toList), rfl⟩
      (show ¬ [';'] <:+ ") \x7b".toList ∧ ¬ ") \x7b".toList <:+ [';'] by decide)
  -- a method is asked for first, and its line would end with a brace
  have hmethod : staticMethod? scope line.toList = none := by
    simp only [staticMethod?, Option.bind_eq_bind, (staticMember?_eq_some_iff hx).mpr hline,
      Option.bind_some, identifier?_eq m (show isIdent ' ' = false by decide),
      between?_eq_none_of_back hend]
    rfl
  have hparts : (between? " = ".toList [';']
      (' ' :: ("= ".toList ++ value.toList ++ [';']))).filter onOneLine = some value.toList :=
    between?_onOneLine_eq_some_iff.mpr ⟨hvalue, rfl⟩
  have hanswer : staticProperty? scope line.toList = some (.staticProperty m.text value) := by
    simp only [staticProperty?, Option.bind_eq_bind, (staticMember?_eq_some_iff hx).mpr hline,
      Option.bind_some, identifier?_eq m (show isIdent ' ' = false by decide), hparts,
      String.ofList_toList]
  rw [classify_memberLine hline (by decide) (by decide) hglobal (fun _ _ => by decide) hprototype]
  simp only [List.findSome?_cons, assembly?_member hline, hmethod, hanswer]

/-! ## Other lines -/

theorem classify_className {q : String} (hq : '\n' ∉ q.toList)
    (hline : line.toList = "\t// ".toList ++ q.toList) (h : ¬ IsPrototypeLine line) :
    classify scope line = some (.className q) := by
  have hearlier : boilerplate? line.toList = none ∧ globalAssignment? line.toList = none ∧
      globalDirective? line.toList = none ∧ globalBlock? line.toList = none ∧
      assembly? line.toList = none ∧ separator? line.toList = none := by
    rw [hline]
    exact ⟨rfl, rfl, rfl, rfl, rfl, rfl⟩
  have hprototype : constructorPrototype? line.toList = none := by
    refine constructorPrototype?_eq_none ?_ ?_ h
    · rw [hline]
      rfl
    · exact not_prefix_of_front ⟨_, hline.symm⟩ (by decide)
  have hanswer : className? line.toList = some (.className q) := by
    rw [className?, List.isPrefixOf?_eq_some_iff_append_eq.mpr hline.symm,
      Option.filter_eq_some_iff.mpr ⟨rfl, onOneLine_iff.mpr hq⟩, Option.map_some,
      String.ofList_toList]
  simp only [classify, recognizers, List.findSome?_cons, hearlier, hprototype, hanswer]

theorem classify_globalAssignment {target value : String} (htarget : '\n' ∉ target.toList)
    (hvalue : '\n' ∉ value.toList) (hlast : ¬ " = ".toList <:+: ' ' :: value.toList)
    (hline : line.toList
      = "\tglobal.".toList ++ (target.toList ++ (" = ".toList ++ value.toList)) ++ [';']) :
    classify scope line = some (.globalAssignment target value) := by
  have hnewline : '\n' ∉ target.toList ++ (" = ".toList ++ value.toList) := by
    have hmark : '\n' ∉ " = ".toList := by decide
    simp only [List.mem_append, not_or]
    exact ⟨htarget, hmark, hvalue⟩
  have hcut : splitLast? " = ".toList (target.toList ++ (" = ".toList ++ value.toList))
      = some (target.toList, value.toList) := by
    have hopening : " = ".toList = ' ' :: ("=".toList ++ [' ']) := by decide
    rw [hopening] at hlast ⊢
    refine splitLast?_eq_some_iff_overlap.mpr ⟨rfl, fun hwithin => hlast ?_⟩
    -- the last blank of a separator can be the first of the next one
    rwa [List.append_assoc, infix_append_of_unseen (by decide)] at hwithin
  rw [classify_of_isGlobalText ⟨hnewline, hline⟩, hcut]
  simp only [String.ofList_toList]

theorem classify_constructor (hclass : scope.hasClass = true) {params : String}
    (hparams : '\n' ∉ params.toList) (hequals : '=' ∉ params.toList)
    (hline : line.toList = "\tvar ".toList
      ++ (v.text.toList ++ (" = function(".toList ++ params.toList)) ++ ") \x7b".toList) :
    classify scope line = some (.constructor v.text params) := by
  have hboilerplate : boilerplate? line.toList = none := by
    have hlines : boilerplateLines.any (·.toList == line.toList) = false := by
      -- the one declaration among them ends with a semicolon
      have hdeclarations : ∀ text ∈ boilerplateLines,
          "\tvar ".toList <+: text.toList → ¬ ") \x7b".toList <:+ text.toList := by decide
      rw [List.any_eq_false]
      intro text htext heq
      refine hdeclarations text htext ?_ ⟨_, (beq_iff_eq.mp heq).trans hline |>.symm⟩
      rw [beq_iff_eq.mp heq, hline, List.append_assoc]
      exact List.prefix_append _ _
    have hmetadata : "\tss.setMetadata(".toList.isPrefixOf line.toList = false := by
      rw [hline]
      rfl
    rw [boilerplate?, hlines, hmetadata]
    rfl
  have hearlier : globalAssignment? line.toList = none ∧ globalDirective? line.toList = none ∧
      globalBlock? line.toList = none ∧ assembly? line.toList = none ∧
      separator? line.toList = none ∧ className? line.toList = none := by
    rw [hline]
    exact ⟨rfl, rfl, rfl, rfl, rfl, rfl⟩
  have hprototype : constructorPrototype? line.toList = none := by
    have hend : ¬ ".prototype;".toList <:+ line.toList :=
      not_suffix_of_back ⟨_, hline.symm⟩ (by decide)
    rw [constructorPrototype?, between?_eq_none_of_back hend]
    rfl
  have hnewline : '\n' ∉ v.text.toList ++ (" = function(".toList ++ params.toList) := by
    have hmark : '\n' ∉ " = function(".toList := by decide
    simp only [List.mem_append, not_or]
    exact ⟨v.notMem (by decide), hmark, hparams⟩
  have hcut : splitLast? " = function(".toList
      (v.text.toList ++ (" = function(".toList ++ params.toList))
      = some (v.text.toList, params.toList) := by
    have hopening : " = function(".toList = ' ' :: "= function(".toList := by decide
    rw [hopening]
    refine splitLast?_eq_some_iff_overlap.mpr ⟨rfl, fun hwithin => hequals ?_⟩
    rw [infix_append_of_unseen (by decide)] at hwithin
    exact hwithin.subset (by decide)
  have hanswer : constructor? scope line.toList = some (.constructor v.text params) := by
    simp only [constructor?, hclass, if_true, Option.bind_eq_bind,
      between?_onOneLine_eq_some_iff.mpr ⟨hnewline, hline⟩, Option.bind_some, hcut,
      String.ofList_toList]
  simp only [classify, recognizers, List.findSome?_cons, hboilerplate, hearlier, hprototype,
    hanswer]

/-! ## Reading what is written -/

/-- A line has the shape it is written for, or it is the comment or the static property that reads
as a prototype. -/
theorem classify_rendered_cases {shape : Option LineShape} (hscope : scope.Named)
    (h : Rendered scope line shape) :
    classify scope line = shape ∨
      IsPrototypeLine line ∧ ((∃ q, shape = some (.className q)) ∨
        ∃ member value, shape = some (.staticProperty member value)) := by
  cases h with
  | @className q hq =>
      by_cases hprototype : IsPrototypeLine ("\t// " ++ q)
      · exact .inr ⟨hprototype, .inl ⟨q, rfl⟩⟩
      · exact .inl (classify_className hq String.toList_append hprototype)
  | @staticProperty x hx hglobal m value hvalue =>
      by_cases hprototype : IsPrototypeLine ("\t" ++ x.text ++ "." ++ m.text ++ " = " ++ value ++ ";")
      · exact .inr ⟨hprototype, .inr ⟨m.text, value, rfl⟩⟩
      · refine .inl (classify_staticProperty hx hglobal hvalue ?_ hprototype)
        simp only [String.toList_append, List.append_assoc]
        rfl
  | assembly hname =>
      refine .inl (classify_assembly hscope hname ?_)
      simp only [String.toList_append]
  | globalAssignment htarget hvalue hlast =>
      refine .inl (classify_globalAssignment htarget hvalue hlast ?_)
      simp only [String.toList_append, List.append_assoc]
      rfl
  | classBlock v =>
      refine .inl (classify_classBlock hscope ?_)
      simp only [String.toList_append]
      rfl
  | classInline v parts =>
      refine .inl (classify_classInline hscope parts ?_)
      simp only [String.toList_append, List.append_assoc]
      rfl
  | interfaceInline v parts =>
      refine .inl (classify_interfaceInline hscope parts ?_)
      simp only [String.toList_append, List.append_assoc]
      rfl
  | enumInline v flags hmembers hmark =>
      refine .inl (classify_enumInline hscope flags hmembers hmark ?_)
      simp only [String.toList_append, List.append_assoc]
      rfl
  | @genericArity front hfront v number hnumber =>
      left
      have hdigits : ∀ c ∈ (toString number.toNat).toList, c.isDigit = true :=
        fun c hc => isDigit_of_mem_toString hc
      rw [classify_generic (v := v) hscope hfront hdigits
        (by simp only [String.toList_append, List.append_assoc]),
        positive32?_eq_some_iff.mpr ⟨hnumber, rfl⟩, Option.map_some]
  | @otherNumeral front hfront v digits hdigits hother =>
      left
      have hnone : positive32? digits.toList = none := by
        rw [Option.eq_none_iff_forall_ne_some]
        intro number hnumber
        obtain ⟨hpos, hdigits⟩ := positive32?_eq_some_iff.mp hnumber
        exact hother number hpos (String.toList_inj.mp hdigits)
      rw [classify_generic (v := v) hscope hfront hdigits
        (by simp only [String.toList_append, List.append_assoc]), hnone, Option.map_none]
  | constructor hclass v params =>
      refine .inl (classify_constructor hclass (notMem_joinedNames params (by decide) (by decide))
        (notMem_joinedNames params (by decide) (by decide)) ?_)
      simp only [String.toList_append, List.append_assoc]
  | staticMethod hx hglobal m params =>
      refine .inl (classify_staticMethod hx hglobal
        (notMem_joinedNames params (by decide) (by decide)) ?_)
      simp only [String.toList_append, List.append_assoc]
      rfl

/-- **Lines are read as they are written.** In a scope whose variable is an identifier, a line has
the shape it is written for exactly when it does not read as the prototype of a secondary
constructor. -/
theorem classify_rendered {shape : Option LineShape} (hscope : scope.Named)
    (h : Rendered scope line shape) : classify scope line = shape ↔ ¬ IsPrototypeLine line := by
  constructor
  · intro hshape hprototype
    rw [classify_eq_constructorPrototype_iff.mpr hprototype] at hshape
    subst hshape
    cases h
  · intro hprototype
    exact (classify_rendered_cases hscope h).resolve_right fun hother => hprototype hother.1

/-- The call of a flag set, in the scope of another class. -/
theorem classify_rendered_of_flags :
    Scope.Named ⟨true, some "$Ns_A"⟩ ∧
      Rendered ⟨true, some "$Ns_A"⟩ "\tss.initEnum($Ns_E, $asm, \x7bnone: 0\x7d, true);"
        (some (.enumInline "$Ns_E" "none: 0" true)) ∧
      classify ⟨true, some "$Ns_A"⟩ "\tss.initEnum($Ns_E, $asm, \x7bnone: 0\x7d, true);"
        = some (.enumInline "$Ns_E" "none: 0" true) := by
  have hscope : Scope.Named ⟨true, some "$Ns_A"⟩ := by
    rintro varId hvarId
    cases hvarId
    exact ⟨⟨"$Ns_A", by decide, by decide⟩, rfl⟩
  have hwritten : Rendered ⟨true, some "$Ns_A"⟩
      "\tss.initEnum($Ns_E, $asm, \x7bnone: 0\x7d, true);"
      (some (.enumInline "$Ns_E" "none: 0" true)) :=
    @Rendered.enumInline _ ⟨"$Ns_E", by decide, by decide⟩ "none: 0" true (by decide) (by decide)
  refine ⟨hscope, hwritten, (classify_rendered hscope hwritten).mpr ?_⟩
  rintro ⟨-, -, body, -, hline, -⟩
  have hend : ".prototype;".toList
      <:+ "\tss.initEnum($Ns_E, $asm, \x7bnone: 0\x7d, true);".toList := ⟨_, hline.symm⟩
  revert hend
  decide

/-- A comment that reads as a prototype, with the comment sign as part of the receiver. -/
theorem classify_rendered_ne :
    classify {} "\t// X.$ctor1.prototype = // X.prototype;" = some .constructorPrototype ∧
      ¬ ∀ (scope : Scope) (line : String) (shape : Option LineShape), scope.Named →
        Rendered scope line shape → classify scope line = shape := by
  have hprototype :
      classify {} "\t// X.$ctor1.prototype = // X.prototype;" = some .constructorPrototype := by
    decide +kernel
  refine ⟨hprototype, fun h => ?_⟩
  have hscope : Scope.Named {} := by
    rintro varId hvarId
    cases hvarId
  have hcomment := h {} _ _ hscope
    (.className (q := "X.$ctor1.prototype = // X.prototype;") (by decide))
  have hline : "\t// " ++ "X.$ctor1.prototype = // X.prototype;"
      = "\t// X.$ctor1.prototype = // X.prototype;" := by decide
  rw [hline, hprototype] at hcomment
  cases hcomment

end ClassRecovery.Dump
