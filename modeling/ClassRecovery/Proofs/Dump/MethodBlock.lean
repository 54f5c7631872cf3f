import ClassRecovery.Proofs.Dump.Identifier
import ClassRecovery.Proofs.Dump.MemberBlock
import ClassRecovery.Proofs.Text.Cut

/-!
# Methods of a block

A method of a block is written with its header, the lines of its body and a closing brace; the body
of a generic method stands in a wrapper that takes the type parameters. A block of methods is read
as it is written (`addBlock_methods`), unless the body of a method without type parameters looks
like a wrapper.
-/

set_option autoImplicit false

namespace ClassRecovery.Dump

open Text

/-! ## Lists -/

/-- Names with a comma and a space between them. -/
def joinedNames (names : List Identifier) : String := ", ".intercalate (names.map (·.text))

/-- Nothing but the items and the separator is in a list. -/
theorem notMem_intercalate {ch : Char} {items : List String} (hsep : ch ∉ ", ".toList)
    (h : ∀ item ∈ items, ch ∉ item.toList) : ch ∉ (", ".intercalate items).toList := by
  induction items with
  | nil => exact List.not_mem_nil
  | cons item items ih =>
      rw [List.forall_mem_cons] at h
      rcases eq_or_ne items [] with rfl | hmore
      · rw [String.intercalate_singleton]
        exact h.1
      · rw [String.intercalate_cons_of_ne_nil hmore]
        simp only [String.toList_append, List.mem_append, not_or]
        exact ⟨⟨h.1, hsep⟩, ih h.2⟩

theorem notMem_joinedNames {ch : Char} (names : List Identifier) (hident : isIdent ch = false)
    (hsep : ch ∉ ", ".toList) : ch ∉ (joinedNames names).toList :=
  notMem_intercalate hsep (List.forall_mem_map.mpr fun name _ => name.notMem hident)

/-- The items of a list: its pieces between separators, without the empty ones. -/
def ItemsOf (list : String) (items : List String) : Prop :=
  ∃ pieces : List String, pieces ≠ [] ∧ (∀ piece ∈ pieces, ¬ ", ".toList <:+: piece.toList) ∧
    ", ".intercalate pieces = list ∧ pieces.filter (· ≠ "") = items

theorem filter_map_ofList (pieces : List (List Char)) :
    (pieces.map String.ofList).filter (· ≠ "")
      = (pieces.filter (!·.isEmpty)).map String.ofList := by
  induction pieces with
  | nil => rfl
  | cons piece pieces ih => cases piece <;> simp_all

theorem splitItems_eq_iff {list : String} {items : List String} :
    splitItems list.toList = items ↔ ItemsOf list items := by
  have hmark : ", ".toList = [',', ' '] := by decide
  constructor
  · rintro rfl
    generalize hsplit : splitOn [',', ' '] list.toList = pieces
    obtain ⟨hsome, hfree, hjoined⟩ := (splitOn_eq_iff (by decide)).mp hsplit
    refine ⟨pieces.map String.ofList, mt List.map_eq_nil_iff.mp hsome, ?_, ?_, ?_⟩
    · rw [List.forall_mem_map]
      intro piece hpiece
      rw [hmark, String.toList_ofList]
      exact hfree piece hpiece
    · rw [← String.toList_inj, String.toList_intercalate, List.map_map, hmark]
      simpa using hjoined
    · rw [filter_map_ofList, splitItems, hmark, hsplit]
  · rintro ⟨pieces, hsome, hfree, rfl, rfl⟩
    have hsplit : splitOn [',', ' '] (", ".intercalate pieces).toList
        = pieces.map String.toList := by
      rw [splitOn_eq_iff (by decide), String.toList_intercalate, hmark, List.forall_mem_map]
      exact ⟨mt List.map_eq_nil_iff.mp hsome, fun piece hpiece => hmark ▸ hfree piece hpiece, rfl⟩
    rw [splitItems, hmark, hsplit, ← filter_map_ofList, List.map_map]
    simp

/-- The items of a list are found again if none is empty and none holds the separator. -/
theorem splitItems_intercalate {items : List String}
    (h : ∀ item ∈ items, item.toList ≠ [] ∧ ¬ ", ".toList <:+: item.toList) :
    splitItems (", ".intercalate items).toList = items := by
  rcases eq_or_ne items [] with rfl | hitems
  · -- the one piece of the empty text is empty
    rfl
  · refine splitItems_eq_iff.mpr ⟨items, hitems, fun item hitem => (h item hitem).2, rfl, ?_⟩
    rw [List.filter_eq_self]
    intro item hitem
    have hne : item ≠ "" := fun heq => (h item hitem).1 (by rw [heq]; rfl)
    simpa using hne

theorem splitItems_joinedNames (names : List Identifier) :
    splitItems (joinedNames names).toList = names.map (·.text) := by
  refine splitItems_intercalate (List.forall_mem_map.mpr fun name _ => ?_)
  have hcomma : ',' ∉ name.text.toList := name.notMem (by decide)
  exact ⟨name.ne_nil, fun hsep => hcomma (hsep.subset (by decide))⟩

theorem parseParams_joinedNames (names : List Identifier) :
    parseParams (joinedNames names) = names.map fun name => { name := name.text } := by
  rw [parseParams, splitItems_joinedNames, List.map_map]
  rfl

/-! ## Wrappers -/

section Wrapper

variable {indent params line : String} {body : List String}

/-- The line that returns the function of a wrapper. -/
def wrapperOpening (indent params : String) : String :=
  indent ++ "\treturn function(" ++ params ++ ") \x7b"

/-- The line that ends it. -/
def wrapperClosing (indent : String) : String := indent ++ "\t\x7d;"

/-- The lines are a function that is returned. -/
def IsWrapped (indent : String) (body : List String) : Prop :=
  ∃ params inner, '\n' ∉ params.toList ∧
    body = wrapperOpening indent params :: (inner ++ [wrapperClosing indent])

theorem toList_wrapperOpening (indent params : String) :
    (wrapperOpening indent params).toList
      = (indent ++ "\treturn function(").toList ++ (params.toList ++ ") \x7b".toList) := by
  simp only [wrapperOpening, String.toList_append, List.append_assoc]

theorem wrappedParams?_eq_some_iff :
    wrappedParams? indent line = some params ↔
      '\n' ∉ params.toList ∧ line = wrapperOpening indent params := by
  simp only [wrappedParams?, Option.bind_eq_bind, Option.bind_eq_some_iff, Option.filter_eq_some_iff,
    List.isPrefixOf?_eq_some_iff_append_eq, List.isSuffixOf?_eq_some_iff_append_eq, onOneLine_iff,
    Option.some.injEq]
  constructor
  · rintro ⟨header, hheader, text, ⟨htext, hline⟩, rfl⟩
    refine ⟨by rwa [String.toList_ofList], ?_⟩
    rw [← String.toList_inj, toList_wrapperOpening, String.toList_ofList, ← hheader, htext]
  · rintro ⟨hparams, rfl⟩
    exact ⟨_, (toList_wrapperOpening indent params).symm, params.toList, ⟨rfl, hparams⟩,
      String.ofList_toList⟩

/-- Lines with two ends are these and what is between them. -/
theorem exists_eq_of_ends {first last : String} (hfirst : body.head? = some first)
    (hlength : 2 ≤ body.length) (hlast : body.getLast? = some last) :
    ∃ inner, body = first :: (inner ++ [last]) := by
  obtain ⟨front, rfl⟩ := List.getLast?_eq_some_iff.mp hlast
  cases front with
  | nil => exact absurd hlength (by simp)
  | cons opening inner =>
      rw [List.cons_append, List.head?_cons, Option.some.injEq] at hfirst
      exact ⟨inner, by rw [hfirst, List.cons_append]⟩

/-- A function that does not look like a wrapper is read as it is written. -/
theorem ofLines_plain (h : ¬ IsWrapped indent body) (params : String) :
    FunctionParts.ofLines indent params body
      = { params := parseParams params, typeParams := none, body := body } := by
  unfold FunctionParts.ofLines
  cases hinner : body.head?.bind (wrappedParams? indent) with
  | none => rfl
  | some inner =>
      obtain ⟨opening, hopening, hline⟩ := Option.bind_eq_some_iff.mp hinner
      obtain ⟨hparams, rfl⟩ := wrappedParams?_eq_some_iff.mp hline
      -- lines with both ends of a wrapper are wrapped
      refine if_neg fun hclosed => ?_
      simp only [Bool.and_eq_true, decide_eq_true_eq, beq_iff_eq] at hclosed
      obtain ⟨lines, hlines⟩ := exists_eq_of_ends hopening hclosed.1 hclosed.2
      exact h ⟨inner, lines, hparams, hlines⟩

/-- A wrapper is read as the function in it, with the type parameters. -/
theorem ofLines_wrapped (hparams : '\n' ∉ params.toList) (types : String) (inner : List String) :
    FunctionParts.ofLines indent types
        (wrapperOpening indent params :: (inner ++ [wrapperClosing indent]))
      = { params := parseParams params
          typeParams :=
            if (splitItems types.toList).isEmpty then none else some (splitItems types.toList)
          body := inner } := by
  have hopens : wrappedParams? indent (wrapperOpening indent params) = some params :=
    wrappedParams?_eq_some_iff.mpr ⟨hparams, rfl⟩
  have hlast : (wrapperOpening indent params :: (inner ++ [wrapperClosing indent])).getLast?
      = some (indent ++ "\t\x7d;") := by
    rw [← List.cons_append, List.getLast?_concat]
    rfl
  unfold FunctionParts.ofLines
  simp only [List.head?_cons, Option.bind_some, hopens, hlast]
  simp [unwrapped]

end Wrapper

/-! ## Methods as they are written -/

theorem closesMethod_eq_false_iff {indent line : String} :
    closesMethod indent line = false ↔ line ≠ indent ++ "\x7d" ∧ line ≠ indent ++ "\x7d," := by
  rw [closesMethod, Bool.or_eq_false_iff, beq_eq_false_iff_ne, beq_eq_false_iff_ne]

/-- A header is cut where the list of parameters begins, if the list holds no colon. -/
theorem methodHeader?_append {name params : List Char} (hname : '\n' ∉ name)
    (hparams : '\n' ∉ params) (hcolon : ':' ∉ params) :
    methodHeader? (name ++ (": function(".toList ++ params) ++ ") \x7b".toList)
      = some (String.ofList name, String.ofList params) := by
  have hmark : ": function(".toList = ':' :: " function(".toList := by decide
  have hcut : splitLast? ": function(".toList (name ++ (": function(".toList ++ params))
      = some (name, params) := by
    rw [hmark, splitLast?_eq_some_iff (by decide)]
    exact ⟨rfl, fun hwithin => hcolon (hwithin.subset List.mem_cons_self)⟩
  have hline : onOneLine (name ++ (": function(".toList ++ params)) = true := by
    have hfunction : '\n' ∉ ": function(".toList := by decide
    rw [onOneLine_iff]
    simp only [List.mem_append, not_or]
    exact ⟨hname, hfunction, hparams⟩
  have hsuffix : ") \x7b".toList.isSuffixOf?
      (name ++ (": function(".toList ++ params) ++ ") \x7b".toList)
        = some (name ++ (": function(".toList ++ params)) :=
    List.isSuffixOf?_eq_some_iff_append_eq.mpr rfl
  simp only [methodHeader?, Option.bind_eq_bind, Option.bind_eq_some_iff,
    Option.filter_eq_some_iff]
  exact ⟨_, ⟨hsuffix, hline⟩, (name, params), hcut, rfl⟩

/-- A method as it is written in a block. A generic method has type parameters. -/
structure MethodLines where
  name : Identifier
  params : List Identifier
  typeParams : List Identifier
  body : List String
  /-- A comma follows the closing brace. -/
  comma : Bool
  not_closed : ∀ line ∈ body, line ≠ "\t\t\x7d" ∧ line ≠ "\t\t\x7d,"
  not_wrapped : typeParams = [] → ¬ IsWrapped blockIndent body

namespace MethodLines

/-- The names in the header: the type parameters of a generic method, else the parameters. -/
def headerNames (m : MethodLines) : List Identifier :=
  if m.typeParams.isEmpty then m.params else m.typeParams

def header (m : MethodLines) : String :=
  blockIndent ++ m.name.text ++ ": function(" ++ joinedNames m.headerNames ++ ") \x7b"

/-- The lines between the header and the closing line. -/
def inside (m : MethodLines) : List String :=
  if m.typeParams.isEmpty then m.body
  else
    wrapperOpening blockIndent (joinedNames m.params) :: (m.body ++ [wrapperClosing blockIndent])

def closing (m : MethodLines) : String := blockIndent ++ "\x7d" ++ commaText m.comma

/-- The lines of the method. -/
def lines (m : MethodLines) : List String := m.header :: (m.inside ++ [m.closing])

/-- The parts that are written. -/
def parts (m : MethodLines) : FunctionParts where
  params := m.params.map fun param => { name := param.text }
  typeParams := if m.typeParams.isEmpty then none else some (m.typeParams.map (·.text))
  body := m.body

/-- The method that is written. -/
def method (cleaner : Cleaner) (c : ClassDef) (m : MethodLines) : Method where
  name := m.name.text
  params := m.parts.params
  body := some (cleaner.body c m.body)
  typeParams := m.parts.typeParams

variable (m : MethodLines)

theorem methodHeader?_header :
    ∃ text, m.header = String.ofList (blockIndent.toList ++ text) ∧
      methodHeader? text = some (m.name.text, joinedNames m.headerNames) := by
  refine ⟨m.name.text.toList ++ (": function(".toList ++ (joinedNames m.headerNames).toList)
    ++ ") \x7b".toList, ?_, ?_⟩
  · rw [← String.toList_inj, String.toList_ofList, header]
    simp only [String.toList_append, List.append_assoc]
  · rw [methodHeader?_append (m.name.notMem (by decide))
      (notMem_joinedNames _ (by decide) (by decide)) (notMem_joinedNames _ (by decide) (by decide)),
      String.ofList_toList, String.ofList_toList]

theorem closesMethod_closing : closesMethod blockIndent m.closing = true := by
  unfold closing
  cases m.comma <;> decide

theorem closesMethod_wrapperOpening (params : String) :
    closesMethod blockIndent (wrapperOpening blockIndent params) = false := by
  -- a wrapper is indented by one more tab than the closing brace
  have hthird : (wrapperOpening blockIndent params).toList[2]? = some '\t' := by
    rw [toList_wrapperOpening]
    rfl
  refine closesMethod_eq_false_iff.mpr ⟨fun h => ?_, fun h => ?_⟩
  · rw [h] at hthird
    exact absurd hthird (by decide)
  · rw [h] at hthird
    exact absurd hthird (by decide)

/-- No line before the closing one closes the method. -/
theorem closesMethod_inside : ∀ line ∈ m.inside, closesMethod blockIndent line = false := by
  have hbody : ∀ line ∈ m.body, closesMethod blockIndent line = false := fun line hline =>
    closesMethod_eq_false_iff.mpr (m.not_closed line hline)
  unfold inside
  split
  · exact hbody
  · intro line hline
    simp only [List.mem_cons, List.mem_append, List.not_mem_nil, or_false] at hline
    rcases hline with rfl | hline | rfl
    · exact closesMethod_wrapperOpening _
    · exact hbody line hline
    · decide

theorem ofLines_inside :
    FunctionParts.ofLines blockIndent (joinedNames m.headerNames) m.inside = m.parts := by
  unfold headerNames inside parts
  cases htypes : m.typeParams with
  | nil =>
      simp only [List.isEmpty_nil, if_true]
      rw [ofLines_plain (m.not_wrapped htypes), parseParams_joinedNames]
  | cons type types =>
      have hparams : '\n' ∉ (joinedNames m.params).toList :=
        notMem_joinedNames _ (by decide) (by decide)
      simp only [List.isEmpty_cons, Bool.false_eq_true, if_false]
      rw [ofLines_wrapped hparams, parseParams_joinedNames, splitItems_joinedNames]
      rfl

/-- A method is read as it is written. -/
theorem readsAs (source : MemberSource) :
    ReadsAs blockIndent source m.lines [.method m.name.text m.parts] := by
  obtain ⟨text, htext, hheader⟩ := m.methodHeader?_header
  rw [lines, htext, ← ofLines_inside]
  exact readsAs_method hheader m.closesMethod_inside m.closesMethod_closing

end MethodLines

/-! ## Blocks of methods -/

/-- A block of methods none of which is ignored is read, and adds the methods that are written. -/
theorem addBlock_methods {ignore : IgnoreList} {c : ClassDef} {methods : List MethodLines}
    (cleaner : Cleaner) (source : MemberSource)
    (h : ∀ m ∈ methods, ignore.contains (c.memberKey m.name.text) = false) :
    addBlock ignore cleaner source (methods.flatMap (·.lines)) c
      = .ok { c with methods := c.methods ++ methods.map (·.method cleaner c) } := by
  have hreads := ReadsAs.flatMap (fun m => m.readsAs source) methods
  have hkept : ∀ member ∈ methods.map fun m => Member.method m.name.text m.parts,
      ignore.contains (c.memberKey member.name) = false :=
    List.forall_mem_map.mpr h
  have hmethods : (methods.map fun m => Member.method m.name.text m.parts).filterMap
      (·.method? cleaner c) = methods.map (·.method cleaner c) :=
    filterMap_map_eq_map (fun _ => by rfl) methods
  have hproperties : (methods.map fun m => Member.method m.name.text m.parts).filterMap
      Member.property? = [] :=
    filterMap_map_eq_nil (fun _ => by rfl) methods
  rw [hreads.addBlock, addMembers_of_kept hkept, hmethods, hproperties, List.append_nil]

/-- A generic method without statements. -/
def convertLines : MethodLines where
  name := ⟨"convert", by decide, by decide⟩
  params := [⟨"value", by decide, by decide⟩]
  typeParams := [⟨"T", by decide, by decide⟩, ⟨"U", by decide, by decide⟩]
  body := []
  comma := true
  not_closed := by decide
  not_wrapped := nofun

/-- A plain method with a reference to its own class. -/
def renderLines : MethodLines where
  name := ⟨"render", by decide, by decide⟩
  params := [⟨"target", by decide, by decide⟩, ⟨"options", by decide, by decide⟩]
  typeParams := []
  body := ["\t\t\t$Ns_Widget.draw(target);"]
  comma := false
  not_closed := by decide
  not_wrapped := by
    rintro - ⟨params, inner, -, hbody⟩
    simp at hbody

theorem addBlock_methods_of_two :
    addBlock ⟨["Ns.Widget:dispose"]⟩ {} (.block 10)
        ["\t\tconvert: function(T, U) \x7b", "\t\t\treturn function(value) \x7b", "\t\t\t\x7d;",
         "\t\t\x7d,",
         "\t\trender: function(target, options) \x7b", "\t\t\t$Ns_Widget.draw(target);",
         "\t\t\x7d"]
        { space := "Ns", name := "Widget", varId := some "$Ns_Widget" }
      = .ok
        { space := "Ns", name := "Widget", varId := some "$Ns_Widget",
          methods :=
            [{ name := "convert", params := [{ name := "value" }], body := some [],
               typeParams := some ["T", "U"] },
             { name := "render", params := [{ name := "target" }, { name := "options" }],
               body := some ["\t\t\tWidget.draw(target);"] }] } := by
  have hkept : ∀ m ∈ [convertLines, renderLines], IgnoreList.contains ⟨["Ns.Widget:dispose"]⟩
      (ClassDef.memberKey { space := "Ns", name := "Widget", varId := some "$Ns_Widget" }
        m.name.text) = false := by decide
  exact addBlock_methods {} (.block 10) hkept

end ClassRecovery.Dump
