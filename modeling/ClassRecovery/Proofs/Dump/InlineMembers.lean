import ClassRecovery.Proofs.Dump.MethodBlock
import ClassRecovery.Proofs.Dump.PropertyLines

/-!
# Members on one line

The members of a class may stand on one line, with `, ` between them, or in a block, one to a line
with a comma behind all but the last. Members that can be told apart on one line are read alike in
both (`addInline_eq_addBlock`): each is cut at the same place, whether a comma follows or not.
-/

set_option autoImplicit false

namespace ClassRecovery.Dump

open Text

/-- The class with the members of a list on one line. -/
def addInline (ignore : IgnoreList) (cleaner : Cleaner) (line : Nat) (members : String)
    (c : ClassDef) : Except Error ClassDef :=
  (allMembers (readInline line members)).map fun members => addMembers ignore cleaner members c

/-! ## Members that can stand on one line -/

/-- A property that can be told apart from its neighbours on one line. -/
structure Entry where
  name : Identifier
  value : String
  ne_nil : value.toList ≠ []
  newline_notMem : '\n' ∉ value.toList
  getLast_ne_comma : value.toList.getLast ne_nil ≠ ','
  getLast_ne_brace : value.toList.getLast ne_nil ≠ '\x7b'
  /-- The value is not cut where members are. -/
  single : ¬ ", ".toList <:+: value.toList
  head?_isBlank : value.toList.head?.any isBlank = false
  getLast?_isBlank : value.toList.getLast?.any isBlank = false

namespace Entry

/-- The property on a line of its own. -/
def propertyLine (e : Entry) (comma : Bool) : PropertyLine where
  name := e.name
  value := e.value
  comma := comma
  ne_nil := e.ne_nil
  newline_notMem := e.newline_notMem
  getLast_ne_comma := e.getLast_ne_comma
  getLast_ne_brace := e.getLast_ne_brace

/-- The property among others on one line. -/
def text (e : Entry) : String := e.name.text ++ ": " ++ e.value

/-- The member that is read. -/
def member (e : Entry) : Member :=
  .property (e.propertyLine false).cut.1 (e.propertyLine false).cut.2

variable (e : Entry)

/-- The cut does not look at the comma. -/
theorem readsAs_line (source : MemberSource) (comma : Bool) :
    ReadsAs blockIndent source [(e.propertyLine comma).line] [e.member] :=
  (e.propertyLine comma).readsAs source

theorem readsAs_text (source : MemberSource) : ReadsAs "" source [e.text] [e.member] := by
  have hwritten := (e.propertyLine false).readsAs_written "" source
  rw [← PropertyLine.toList_written] at hwritten
  have htext : String.ofList ("".toList ++ (e.name.text ++ ": " ++ e.value ++ commaText false).toList)
      = e.text := by
    rw [← String.toList_inj, String.toList_ofList]
    simp [text, commaText]
  exact htext ▸ hwritten

theorem toList_text : e.text.toList = e.name.text.toList ++ (": ".toList ++ e.value.toList) := by
  simp only [text, String.toList_append, List.append_assoc]

theorem not_infix_text : ¬ ", ".toList <:+: e.text.toList := by
  have hmark : ", ".toList = [',', ' '] := by decide
  have hname : Unseen [',', ' '] e.name.text.toList := unseen_of_notMem (e.name.notMem (by decide))
  have hcolon : Unseen [',', ' '] ": ".toList := by decide
  rw [toList_text, hmark, infix_append_of_unseen hname, infix_append_of_unseen hcolon, ← hmark]
  exact e.single

theorem isTrimmed_text : IsTrimmed e.text.toList := by
  have hname : IsTrimmed e.name.text.toList := .of_forall e.name.ne_nil e.name.isBlank_of_mem
  rw [toList_text]
  exact hname.append ⟨e.ne_nil, e.head?_isBlank, e.getLast?_isBlank⟩ ": ".toList

end Entry

/-! ## Lists of entries -/

/-- The entries on one line. -/
def inlineText (entries : List Entry) : String := ", ".intercalate (entries.map (·.text))

/-- The entries on the lines of a block, all but the last with a comma. -/
def blockLines : List Entry → List String
  | [] => []
  | [e] => [(e.propertyLine false).line]
  | e :: next :: entries => (e.propertyLine true).line :: blockLines (next :: entries)

theorem readsAs_blockLines (source : MemberSource) (entries : List Entry) :
    ReadsAs blockIndent source (blockLines entries) (entries.map (·.member)) := by
  induction entries with
  | nil => exact .nil
  | cons e entries ih =>
      cases entries with
      | nil => exact e.readsAs_line source false
      | cons next entries => exact (e.readsAs_line source true).append ih

theorem toList_inlineText_cons (e : Entry) {entries : List Entry} (hmore : entries ≠ []) :
    (inlineText (e :: entries)).toList
      = e.text.toList ++ (", ".toList ++ (inlineText entries).toList) := by
  have hsome : entries.map (·.text) ≠ [] := mt List.map_eq_nil_iff.mp hmore
  rw [inlineText, List.map_cons, String.intercalate_cons_of_ne_nil hsome]
  simp only [String.toList_append, List.append_assoc]
  rfl

theorem isTrimmed_inlineText {entries : List Entry} (hne : entries ≠ []) :
    IsTrimmed (inlineText entries).toList := by
  induction entries with
  | nil => exact absurd rfl hne
  | cons e entries ih =>
      rcases eq_or_ne entries [] with rfl | hmore
      · rw [inlineText, List.map_singleton, String.intercalate_singleton]
        exact e.isTrimmed_text
      · rw [toList_inlineText_cons e hmore]
        exact e.isTrimmed_text.append (ih hmore) ", ".toList

theorem trim_inlineText (entries : List Entry) :
    trim (inlineText entries).toList = (inlineText entries).toList := by
  rcases eq_or_ne entries [] with rfl | hne
  · rfl
  · exact (isTrimmed_inlineText hne).trim_eq

theorem splitOn_inlineText {entries : List Entry} (hne : entries ≠ []) :
    (splitOn ", ".toList (inlineText entries).toList).map String.ofList
      = entries.map (·.text) := by
  have hmark : ", ".toList = [',', ' '] := by decide
  have hpieces : ∀ piece ∈ (entries.map (·.text)).map String.toList, ¬ [',', ' '] <:+: piece := by
    rw [List.map_map, List.forall_mem_map]
    exact fun e _ => hmark ▸ e.not_infix_text
  have hsome : (entries.map (·.text)).map String.toList ≠ [] := by simpa using hne
  rw [inlineText, String.toList_intercalate, hmark, splitOn_intercalate (by decide) hpieces hsome,
    List.map_map]
  simp

/-! ## Both ways of writing -/

section Written

variable (ignore : IgnoreList) (cleaner : Cleaner) (c : ClassDef) (entries : List Entry)

theorem addBlock_blockLines (source : MemberSource) :
    addBlock ignore cleaner source (blockLines entries) c
      = .ok (addMembers ignore cleaner (entries.map (·.member)) c) :=
  (readsAs_blockLines source entries).addBlock

/-- White space around the list does not count. -/
theorem addInline_inlineText (line : Nat) {before after : String}
    (hbefore : ∀ c ∈ before.toList, isBlank c = true)
    (hafter : ∀ c ∈ after.toList, isBlank c = true) :
    addInline ignore cleaner line (before ++ inlineText entries ++ after) c
      = .ok (addMembers ignore cleaner (entries.map (·.member)) c) := by
  have hread : readInline line (before ++ inlineText entries ++ after)
      = (entries.map (·.member), none) := by
    rw [readInline, String.toList_append, String.toList_append, List.append_assoc,
      trim_around hbefore hafter, trim_inlineText]
    rcases eq_or_ne entries [] with rfl | hne
    · -- the one piece of the empty list is the empty line
      rfl
    · have hreads := ReadsAs.flatMap (fun e => e.readsAs_text (.inline line)) entries
      rw [← List.map_eq_flatMap] at hreads
      rw [splitOn_inlineText hne, hreads.readMembers]
  rw [addInline, hread]
  rfl

/-- **A list on one line and a block agree.** Both are read, and give the same class. -/
theorem addInline_eq_addBlock (line : Nat) (source : MemberSource) {before after : String}
    (hbefore : ∀ c ∈ before.toList, isBlank c = true)
    (hafter : ∀ c ∈ after.toList, isBlank c = true) :
    ∃ c', addInline ignore cleaner line (before ++ inlineText entries ++ after) c = .ok c' ∧
      addBlock ignore cleaner source (blockLines entries) c = .ok c' :=
  ⟨_, addInline_inlineText ignore cleaner c entries line hbefore hafter,
    addBlock_blockLines ignore cleaner c entries source⟩

end Written

/-- An entry with a number for its value. -/
def redEntry : Entry where
  name := ⟨"red", by decide, by decide⟩
  value := "1"
  ne_nil := by decide
  newline_notMem := by decide
  getLast_ne_comma := by decide
  getLast_ne_brace := by decide
  single := by decide
  head?_isBlank := by decide
  getLast?_isBlank := by decide

/-- An entry whose value looks like a member, and is cut alike in both. -/
def shadeEntry : Entry where
  name := ⟨"shade", by decide, by decide⟩
  value := "'r: g'"
  ne_nil := by decide
  newline_notMem := by decide
  getLast_ne_comma := by decide
  getLast_ne_brace := by decide
  single := by decide
  head?_isBlank := by decide
  getLast?_isBlank := by decide

/-- An ignored entry and a kept one, with blanks around them. -/
theorem addInline_eq_addBlock_of_two :
    ∃ c', addInline ⟨["Ns.Color:red"]⟩ {} 4 " red: 1, shade: 'r: g' "
        { space := "Ns", name := "Color" } = .ok c' ∧
      addBlock ⟨["Ns.Color:red"]⟩ {} (.block 10) ["\t\tred: 1,", "\t\tshade: 'r: g'"]
        { space := "Ns", name := "Color" } = .ok c' := by
  have hinline : " " ++ inlineText [redEntry, shadeEntry] ++ " " = " red: 1, shade: 'r: g' " := by
    decide
  have hblock : blockLines [redEntry, shadeEntry] = ["\t\tred: 1,", "\t\tshade: 'r: g'"] := by
    decide
  have hblank : ∀ c ∈ " ".toList, isBlank c = true := List.all_eq_true.mp (by decide)
  rw [← hinline, ← hblock]
  exact addInline_eq_addBlock _ {} _ [redEntry, shadeEntry] 4 (.block 10) hblank hblank

end ClassRecovery.Dump
