import ClassRecovery.Proofs.Dump.Identifier
import ClassRecovery.Proofs.Dump.MemberBlock
import ClassRecovery.Proofs.Text.Cut

/-!
# Property lines of a block

A property of a block is written `name: value`, with or without a comma. The line is cut at the
last `: ` before the last character of the value (`propertyLine?_append`), so it is read as it is
written exactly when no `: ` stands there in the value. `addBlock_properties_iff` says so of whole
blocks.
-/

set_option autoImplicit false

namespace ClassRecovery.Dump

open Text

/-! ## Cutting a property line -/

section Cut

variable {last : Char} {front text : List Char}

/-- A value is what stands before the comma, if it does not end with another one. -/
theorem propertyValue?_append (htext : '\n' ∉ text) (hlast : last ≠ ',') (comma : Bool) :
    propertyValue? (text ++ last :: (commaText comma).toList) = some (text ++ [last]) := by
  have hvalue : (([','].isSuffixOf? (text ++ last :: (commaText comma).toList)).getD
      (text ++ last :: (commaText comma).toList)) = text ++ [last] := by
    cases comma with
    | true =>
        have hsuffix : [','].isSuffixOf? (text ++ last :: (commaText true).toList)
            = some (text ++ [last]) := by
          rw [List.isSuffixOf?_eq_some_iff_append_eq]
          simp [commaText]
        rw [hsuffix]
        rfl
    | false =>
        have hsuffix : [','].isSuffixOf? (text ++ [last]) = none := by
          rw [Option.eq_none_iff_forall_ne_some]
          intro rest hrest
          have hend := congrArg List.getLast? (List.isSuffixOf?_eq_some_iff_append_eq.mp hrest)
          rw [List.getLast?_concat, List.getLast?_concat, Option.some.injEq] at hend
          exact hlast hend.symm
        exact hsuffix ▸ rfl
  have hline : onOneLine text = true := onOneLine_iff.mpr htext
  rw [propertyValue?]
  simp only [hvalue, List.getLast?_concat, List.dropLast_concat, hline, Option.any_some]
  simp [hlast]

/-- What follows a separator of name and value, if a value stands there. -/
def afterColon? (rest : List Char) : Option (List Char) :=
  (": ".toList.isPrefixOf? rest).filter fun text => (propertyValue? text).isSome

/-- A separator is seen at the head of a line if its end is before the last character of the
value. -/
theorem afterColon?_append (hfront : '\n' ∉ front) (hlast : last ≠ ',') (comma : Bool) :
    afterColon? (front ++ last :: (commaText comma).toList)
      = (": ".toList.isPrefixOf? front).map (· ++ last :: (commaText comma).toList) := by
  have hmark : ": ".toList = [':', ' '] := by decide
  unfold afterColon?
  rw [hmark]
  match front, hfront with
  | [], _ =>
      -- a comma is no blank
      cases comma <;> simp [List.isPrefixOf?, commaText]
  | [first], _ =>
      -- nothing stands behind the separator, or a comma
      have hempty : propertyValue? (commaText comma).toList = none := by cases comma <;> decide
      rcases eq_or_ne last ' ' with rfl | hblank
      · by_cases hcolon : ':' = first <;> simp [List.isPrefixOf?, hcolon, hempty]
      · simp [List.isPrefixOf?, hblank.symm]
  | first :: second :: text, hfront =>
      have htext : '\n' ∉ text := by
        simp only [List.mem_cons, not_or] at hfront
        exact hfront.2.2
      have hvalue := propertyValue?_append htext hlast comma
      rcases eq_or_ne first ':' with rfl | hcolon
      · rcases eq_or_ne second ' ' with rfl | hblank
        · simp [List.isPrefixOf?, hvalue]
        · simp [List.isPrefixOf?, hblank.symm]
      · simp [List.isPrefixOf?, hcolon.symm]

theorem splitLastBy?_afterColon (hfront : '\n' ∉ front) (hlast : last ≠ ',') (comma : Bool) :
    splitLastBy? afterColon? (front ++ last :: (commaText comma).toList)
      = (splitLast? ": ".toList front).map fun cut =>
          (cut.1, cut.2 ++ last :: (commaText comma).toList) := by
  have hend : splitLastBy? afterColon? (last :: (commaText comma).toList) = none := by
    have hcomma : splitLastBy? afterColon? (commaText comma).toList = none := by
      cases comma <;> decide
    have hhere : afterColon? (last :: (commaText comma).toList) = none :=
      afterColon?_append List.not_mem_nil hlast comma
    rw [splitLastBy?_cons_of_none hcomma, hhere]
    rfl
  exact splitLastBy?_append_map hend fun piece hpiece _ =>
    afterColon?_append (fun hmem => hfront (hpiece.subset hmem)) hlast comma

/-- A property line is cut at the last separator before the last character of the value. -/
theorem propertyLine?_append (hfront : '\n' ∉ front) (hlast : last ≠ ',') (comma : Bool) :
    propertyLine? (front ++ last :: (commaText comma).toList)
      = (splitLast? ": ".toList front).map fun cut =>
          (String.ofList cut.1, String.ofList (cut.2 ++ [last])) := by
  have hcut := splitLastBy?_afterColon hfront hlast comma
  unfold afterColon? at hcut
  unfold propertyLine?
  rw [hcut]
  cases hfound : splitLast? ": ".toList front with
  | none => rfl
  | some cut =>
      rw [append_of_splitLast? hfound, List.mem_append, List.mem_append, not_or, not_or] at hfront
      have hvalue := propertyValue?_append hfront.2 hlast comma
      have hname : onOneLine cut.1 = true := onOneLine_iff.mpr hfront.1.1
      simp [hvalue, hname]

/-- No method header ends otherwise than with an opening brace. -/
theorem methodHeader?_eq_none (h : text.getLast? ≠ some '\x7b') : methodHeader? text = none := by
  have hmark : ") \x7b".toList = [')', ' '] ++ ['\x7b'] := by decide
  have hsuffix : ") \x7b".toList.isSuffixOf? text = none := by
    rw [Option.eq_none_iff_forall_ne_some]
    intro header hheader
    have htext := List.isSuffixOf?_eq_some_iff_append_eq.mp hheader
    rw [hmark, ← List.append_assoc] at htext
    exact h (htext ▸ List.getLast?_concat)
  rw [methodHeader?, hsuffix]
  rfl

end Cut

/-! ## Properties as they are written -/

/-- A property as it is written in a block. -/
structure PropertyLine where
  name : Identifier
  value : String
  /-- A comma follows the value. -/
  comma : Bool
  ne_nil : value.toList ≠ []
  newline_notMem : '\n' ∉ value.toList
  getLast_ne_comma : value.toList.getLast ne_nil ≠ ','
  getLast_ne_brace : value.toList.getLast ne_nil ≠ '\x7b'

namespace PropertyLine

/-- The line of the property. -/
def line (p : PropertyLine) : String :=
  blockIndent ++ p.name.text ++ ": " ++ p.value ++ commaText p.comma

/-- The property that is written. -/
def property (p : PropertyLine) : Property :=
  { name := p.name.text, defaultValue := some p.value }

/-- No separator of name and value ends before the last character of the value. -/
def IsPlain (p : PropertyLine) : Prop := ¬ ": ".toList <:+: p.value.toList.dropLast

instance : DecidablePred IsPlain := fun p =>
  inferInstanceAs (Decidable (¬ ": ".toList <:+: p.value.toList.dropLast))

/-- The line up to the last character of the value. -/
def front (p : PropertyLine) : List Char :=
  p.name.text.toList ++ (": ".toList ++ p.value.toList.dropLast)

/-- The last character of the value. -/
def last (p : PropertyLine) : Char := p.value.toList.getLast p.ne_nil

/-- The name and the value that are read. -/
def cut (p : PropertyLine) : String × String :=
  match splitLast? ": ".toList p.front with
  | some (name, text) => (String.ofList name, String.ofList (text ++ [p.last]))
  | none => (p.name.text, p.value)

variable (p : PropertyLine)

/-- What is written of the property, wherever it stands. -/
theorem toList_written :
    (p.name.text ++ ": " ++ p.value ++ commaText p.comma).toList
      = p.front ++ p.last :: (commaText p.comma).toList := by
  have hvalue : p.value.toList = p.value.toList.dropLast ++ [p.last] :=
    (List.dropLast_append_getLast p.ne_nil).symm
  simp only [String.toList_append]
  rw [hvalue]
  simp [front]

theorem line_eq :
    p.line = String.ofList (blockIndent.toList ++
      (p.front ++ p.last :: (commaText p.comma).toList)) := by
  rw [← String.toList_inj, String.toList_ofList, ← toList_written, line]
  simp only [String.toList_append, List.append_assoc]

theorem newline_notMem_front : '\n' ∉ p.front := by
  have hname : '\n' ∉ p.name.text.toList := p.name.notMem (by decide)
  have hmark : '\n' ∉ ": ".toList := by decide
  simp only [front, List.mem_append, not_or]
  exact ⟨hname, hmark, fun hmem => p.newline_notMem (List.mem_of_mem_dropLast hmem)⟩

/-- There is always a place to cut: the separator that is written. -/
theorem exists_splitLast?_front : ∃ cut, splitLast? ": ".toList p.front = some cut := by
  rw [← Option.ne_none_iff_exists', ne_eq, splitLast?_eq_none_iff (by decide), not_not]
  exact ⟨p.name.text.toList, p.value.toList.dropLast, List.append_assoc ..⟩

/-- The name and the value are read as they are written if the value is plain. -/
theorem cut_eq_iff : p.cut = (p.name.text, p.value) ↔ p.IsPlain := by
  have hmark : ": ".toList = [':', ' '] := by decide
  constructor
  · intro h
    obtain ⟨⟨name, text⟩, hfound⟩ := p.exists_splitLast?_front
    simp only [cut, hfound, Prod.mk.injEq] at h
    have htext : text = p.value.toList.dropLast := by
      rw [← h.2, String.toList_ofList, List.dropLast_concat]
    rw [IsPlain, ← htext]
    exact not_infix_of_splitLast? (by decide) hfound
  · intro hplain
    -- nothing behind the separator that is written is a separator
    rw [IsPlain, hmark] at hplain
    have hfound : splitLast? [':', ' '] p.front
        = some (p.name.text.toList, p.value.toList.dropLast) := by
      refine (splitLast?_eq_some_iff (by decide)).mpr ⟨?_, hplain⟩
      rw [front, hmark]
    simp only [cut, hmark, hfound, last, List.dropLast_append_getLast, String.ofList_toList]

/-- At whatever indentation, the property is read as it is cut. -/
theorem readsAs_written (indent : String) (source : MemberSource) :
    ReadsAs indent source
      [String.ofList (indent.toList ++ (p.front ++ p.last :: (commaText p.comma).toList))]
      [.property p.cut.1 p.cut.2] := by
  have hheader : methodHeader? (p.front ++ p.last :: (commaText p.comma).toList) = none := by
    apply methodHeader?_eq_none
    have hlast : p.last ≠ '\x7b' := p.getLast_ne_brace
    cases p.comma <;> simp [commaText, List.getLast?_append, hlast]
  have hproperty :
      propertyLine? (p.front ++ p.last :: (commaText p.comma).toList) = some p.cut := by
    have hlast : p.last ≠ ',' := p.getLast_ne_comma
    obtain ⟨found, hfound⟩ := p.exists_splitLast?_front
    rw [propertyLine?_append p.newline_notMem_front hlast, cut, hfound]
    rfl
  exact readsAs_property hheader hproperty

theorem readsAs (source : MemberSource) :
    ReadsAs blockIndent source [p.line] [.property p.cut.1 p.cut.2] := by
  rw [line_eq]
  exact p.readsAs_written blockIndent source

end PropertyLine

/-! ## Blocks of properties -/

/-- A filter whose image is as long as the list has dropped nothing. -/
theorem filter_eq_self_of_filterMap {α β : Type} {items : List α} {keep : α → Bool}
    {image : α → Option β} {images : List β} (h : (items.filter keep).filterMap image = images)
    (hlength : images.length = items.length) : items.filter keep = items := by
  refine List.filter_sublist.eq_of_length (le_antisymm (List.length_filter_le _ _) ?_)
  calc items.length = ((items.filter keep).filterMap image).length := by rw [h, hlength]
    _ ≤ (items.filter keep).length := List.length_filterMap_le _ _

/-- A block of property lines is always read, each line as it is cut. -/
theorem addBlock_properties (ignore : IgnoreList) (cleaner : Cleaner) (source : MemberSource)
    (entries : List PropertyLine) (c : ClassDef) :
    addBlock ignore cleaner source (entries.map (·.line)) c
      = .ok (addMembers ignore cleaner (entries.map fun p => .property p.cut.1 p.cut.2) c) := by
  have hreads := ReadsAs.flatMap (fun p => p.readsAs source) entries
  rw [← List.map_eq_flatMap] at hreads
  exact hreads.addBlock

/-- A block of property lines is always read. If no name is ignored, it adds the properties that
are written exactly when every value is plain. -/
theorem addBlock_properties_iff {ignore : IgnoreList} {c : ClassDef} {entries : List PropertyLine}
    (cleaner : Cleaner) (source : MemberSource)
    (h : ∀ p ∈ entries, ignore.contains (c.memberKey p.name.text) = false) :
    ∃ c', addBlock ignore cleaner source (entries.map (·.line)) c = .ok c' ∧
      (c' = { c with properties := c.properties ++ entries.map (·.property) } ↔
        ∀ p ∈ entries, p.IsPlain) := by
  refine ⟨_, addBlock_properties ignore cleaner source entries c, ?_⟩
  constructor
  · intro hclass
    have hall := List.append_cancel_left (congrArg ClassDef.properties hclass)
    -- a property that is read under another name could be ignored, but none is missing
    have hkept := filter_eq_self_of_filterMap hall (by simp only [List.length_map])
    have hread : (entries.map fun p => Member.property p.cut.1 p.cut.2).filterMap
        Member.property? = entries.map fun p => { name := p.cut.1, defaultValue := p.cut.2 } :=
      filterMap_map_eq_map (fun _ => by rfl) entries
    rw [hkept, hread, List.map_inj_left] at hall
    intro p hp
    have hproperty := hall p hp
    simp only [PropertyLine.property, Property.mk.injEq, Option.some.injEq] at hproperty
    exact p.cut_eq_iff.mp (Prod.ext hproperty.1 hproperty.2.1)
  · intro hplain
    have hcut : (entries.map fun p => Member.property p.cut.1 p.cut.2)
        = entries.map fun p => .property p.name.text p.value :=
      List.map_congr_left fun p hp => by rw [p.cut_eq_iff.mpr (hplain p hp)]
    have hkept : ∀ member ∈ entries.map fun p => Member.property p.name.text p.value,
        ignore.contains (c.memberKey member.name) = false :=
      List.forall_mem_map.mpr h
    have hmethods : (entries.map fun p => Member.property p.name.text p.value).filterMap
        (·.method? cleaner c) = [] :=
      filterMap_map_eq_nil (fun _ => by rfl) entries
    have hproperties : (entries.map fun p => Member.property p.name.text p.value).filterMap
        Member.property? = entries.map (·.property) :=
      filterMap_map_eq_map (fun _ => by rfl) entries
    rw [hcut, addMembers_of_kept hkept, hmethods, hproperties, List.append_nil]

/-- A property with a comma behind it. -/
def countLine : PropertyLine where
  name := ⟨"count", by decide, by decide⟩
  value := "0"
  comma := true
  ne_nil := by decide
  newline_notMem := by decide
  getLast_ne_comma := by decide
  getLast_ne_brace := by decide

/-- The last property of a block. -/
def titleLine : PropertyLine where
  name := ⟨"title", by decide, by decide⟩
  value := "'x'"
  comma := false
  ne_nil := by decide
  newline_notMem := by decide
  getLast_ne_comma := by decide
  getLast_ne_brace := by decide

theorem addBlock_properties_iff_of_two :
    addBlock ⟨["Ns.Widget:cache"]⟩ {} (.block 10) ["\t\tcount: 0,", "\t\ttitle: 'x'"]
        { space := "Ns", name := "Widget" }
      = .ok
        { space := "Ns", name := "Widget",
          properties :=
            [{ name := "count", defaultValue := some "0" },
             { name := "title", defaultValue := some "'x'" }] } := by
  have hkept : ∀ p ∈ [countLine, titleLine], IgnoreList.contains ⟨["Ns.Widget:cache"]⟩
      (ClassDef.memberKey { space := "Ns", name := "Widget" } p.name.text) = false := by decide
  obtain ⟨c', hread, hclass⟩ := addBlock_properties_iff {} (.block 10) hkept
  have hplain : ∀ p ∈ [countLine, titleLine], p.IsPlain := by decide
  rw [hclass.mpr hplain] at hread
  exact hread

/-- A property whose value looks like a member. -/
def labelLine : PropertyLine where
  name := ⟨"label", by decide, by decide⟩
  value := "'a: b'"
  comma := false
  ne_nil := by decide
  newline_notMem := by decide
  getLast_ne_comma := by decide
  getLast_ne_brace := by decide

/-- Such a value is cut, and what is before the cut goes to the name. -/
theorem addBlock_properties_of_colon :
    labelLine.line = "\t\tlabel: 'a: b'" ∧
      addBlock {} {} (.block 10) [labelLine.line] { space := "Ns", name := "Widget" }
        = .ok
          { space := "Ns", name := "Widget",
            properties := [{ name := "label: 'a", defaultValue := some "b'" }] } ∧
      ¬ ∀ (ignore : IgnoreList) (cleaner : Cleaner) (source : MemberSource) (c : ClassDef)
          (entries : List PropertyLine),
        (∀ p ∈ entries, ignore.contains (c.memberKey p.name.text) = false) →
          addBlock ignore cleaner source (entries.map (·.line)) c
            = .ok { c with properties := c.properties ++ entries.map (·.property) } := by
  have hline : labelLine.line = "\t\tlabel: 'a: b'" := by decide
  have hread : addBlock {} {} (.block 10) [labelLine.line] { space := "Ns", name := "Widget" }
      = .ok
        { space := "Ns", name := "Widget",
          properties := [{ name := "label: 'a", defaultValue := some "b'" }] } := by
    rw [hline]
    rfl
  refine ⟨hline, hread, fun h => ?_⟩
  have hwritten := h {} {} (.block 10) { space := "Ns", name := "Widget" } [labelLine] (by decide)
  rw [List.map_singleton, hread] at hwritten
  exact absurd hwritten (by decide)

end ClassRecovery.Dump
