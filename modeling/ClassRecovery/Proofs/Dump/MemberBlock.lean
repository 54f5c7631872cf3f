import ClassRecovery.Dump.MemberList
import ClassRecovery.Proofs.Dump.Closing
import Mathlib.Data.List.Basic

/-!
# Members of a block

A member list is read piece by piece: what lines are read as does not depend on the lines before
or behind them (`ReadsAs`). So a list is read as its pieces are, and it is enough to say how one
member is read. `addBlock` is all that a block does to a class.
-/

set_option autoImplicit false

namespace ClassRecovery.Dump

/-- The class with the members on the lines of a block. -/
def addBlock (ignore : IgnoreList) (cleaner : Cleaner) (source : MemberSource)
    (lines : List String) (c : ClassDef) : Except Error ClassDef :=
  (allMembers (readMembers blockIndent source lines)).map fun members =>
    addMembers ignore cleaner members c

/-- A comma, or nothing, behind a member. -/
def commaText (comma : Bool) : String := if comma then "," else ""

variable {indent : String} {source : MemberSource} {lines lines' : List String}
  {members members' : List Member}

/-! ## Pieces of a list -/

/-- The lines are read as these members, whatever lines follow. -/
def ReadsAs (indent : String) (source : MemberSource) (lines : List String)
    (members : List Member) : Prop :=
  ∀ offset rest, readMembersFrom indent source 0 offset (lines ++ rest)
    = (readMembersFrom indent source 0 (offset + lines.length) rest).map (members ++ ·) id

namespace ReadsAs

theorem nil : ReadsAs indent source [] [] := fun _ _ => rfl

theorem append (h : ReadsAs indent source lines members)
    (h' : ReadsAs indent source lines' members') :
    ReadsAs indent source (lines ++ lines') (members ++ members') := by
  intro offset rest
  rw [List.append_assoc, h, h', List.length_append, Nat.add_assoc]
  simp only [Prod.map, List.append_assoc, id]

/-- Lines written for the items of a list, one member for each, are read as these members. -/
theorem flatMap {α : Type} {written : α → List String} {member : α → Member}
    (h : ∀ item, ReadsAs indent source (written item) [member item]) (items : List α) :
    ReadsAs indent source (items.flatMap written) (items.map member) := by
  induction items with
  | nil => exact nil
  | cons item items ih =>
      rw [List.flatMap_cons, List.map_cons]
      exact (h item).append ih

/-- The empty line is no member. -/
theorem lines_ne (h : ReadsAs indent source lines members) : lines ≠ [""] := by
  rintro rfl
  have hnone : (readMembersFrom indent source 0 0 [""]).2 = none := by
    have hall := h 0 []
    rw [List.append_nil] at hall
    rw [hall]
    rfl
  rw [readMembersFrom] at hnone
  cases htext : indent.toList.isPrefixOf? "".toList with
  | none =>
      rw [htext] at hnone
      cases hnone
  | some text =>
      have hnil : text = [] :=
        (List.append_eq_nil_iff.mp (List.isPrefixOf?_eq_some_iff_append_eq.mp htext)).2
      rw [htext, hnil] at hnone
      cases hnone

/-- A list that is read as members has these and no others. -/
theorem readMembers (h : ReadsAs indent source lines members) :
    readMembers indent source lines = (members, none) := by
  have hall := h 0 []
  rw [List.append_nil] at hall
  rw [Dump.readMembers, if_neg h.lines_ne, hall]
  simp [readMembersFrom]

end ReadsAs

/-! ## Single members -/

/-- Lines that are passed over are not read. -/
theorem readMembersFrom_skip (indent : String) (source : MemberSource) (passed rest : List String)
    (offset : Nat) :
    readMembersFrom indent source passed.length offset (passed ++ rest)
      = readMembersFrom indent source 0 (offset + passed.length) rest := by
  induction passed generalizing offset with
  | nil => rfl
  | cons line passed ih =>
      rw [List.length_cons, List.cons_append, readMembersFrom, ih, Nat.add_right_comm,
        Nat.add_assoc]

theorem isPrefixOf?_indent (text : List Char) :
    indent.toList.isPrefixOf? (String.ofList (indent.toList ++ text)).toList = some text := by
  rw [String.toList_ofList]
  exact List.isPrefixOf?_eq_some_iff_append_eq.mpr rfl

/-- A method is its header, the lines before the next closing line, and that line. -/
theorem readsAs_method {text : List Char} {name params closing : String} {body : List String}
    (hheader : methodHeader? text = some (name, params))
    (hbody : ∀ line ∈ body, closesMethod indent line = false)
    (hclosing : closesMethod indent closing = true) :
    ReadsAs indent source (String.ofList (indent.toList ++ text) :: (body ++ [closing]))
      [.method name (.ofLines indent params body)] := by
  intro offset rest
  have hcut : cutAtClosing (closesMethod indent) "\x7d" (source.lineIndex offset)
      (body ++ [closing] ++ rest) = .ok (body, closing) := by
    refine cutAtClosing_eq_ok_iff.mpr (cutAtClosing?_eq_some_iff.mpr ⟨rest, ?_, hbody, hclosing⟩)
    rw [List.append_assoc]
    rfl
  have hskip := readMembersFrom_skip indent source (body ++ [closing]) rest (offset + 1)
  rw [List.length_append, List.length_singleton] at hskip
  rw [List.cons_append, readMembersFrom, isPrefixOf?_indent]
  simp only [hheader, hcut, hskip, List.length_cons, List.length_append]
  rw [Nat.add_right_comm, Nat.add_assoc]
  rfl

/-- Any other line is a property, if it is one. -/
theorem readsAs_property {text : List Char} {name value : String}
    (hheader : methodHeader? text = none) (hproperty : propertyLine? text = some (name, value)) :
    ReadsAs indent source [String.ofList (indent.toList ++ text)] [.property name value] := by
  intro offset rest
  rw [List.singleton_append, readMembersFrom, isPrefixOf?_indent]
  simp only [hheader, hproperty]
  rfl

/-! ## Members of a class -/

variable {ignore : IgnoreList} {cleaner : Cleaner} {c : ClassDef}

/-- A list of members none of which is ignored enters the class as it is. -/
theorem addMembers_of_kept
    (h : ∀ member ∈ members, ignore.contains (c.memberKey member.name) = false) :
    addMembers ignore cleaner members c
      = { c with
          methods := c.methods ++ members.filterMap (·.method? cleaner c)
          properties := c.properties ++ members.filterMap Member.property? } := by
  have hkept : members.filter (fun member => !ignore.contains (c.memberKey member.name))
      = members :=
    List.filter_eq_self.mpr fun member hmem => by rw [h member hmem]; rfl
  rw [addMembers, hkept]

/-- The image of a list of one kind of members. -/
theorem filterMap_map_eq_map {α β γ : Type} {member : α → β} {image? : β → Option γ}
    {image : α → γ} (h : ∀ item, image? (member item) = some (image item)) (items : List α) :
    (items.map member).filterMap image? = items.map image := by
  rw [List.filterMap_map, ← List.filterMap_eq_map]
  exact List.filterMap_congr fun item _ => h item

/-- Members of another kind have no image. -/
theorem filterMap_map_eq_nil {α β γ : Type} {member : α → β} {image? : β → Option γ}
    (h : ∀ item, image? (member item) = none) (items : List α) :
    (items.map member).filterMap image? = [] :=
  List.filterMap_eq_nil_iff.mpr (List.forall_mem_map.mpr fun item _ => h item)

theorem ReadsAs.addBlock (h : ReadsAs blockIndent source lines members) :
    addBlock ignore cleaner source lines c = .ok (addMembers ignore cleaner members c) := by
  rw [Dump.addBlock, h.readMembers]
  rfl

end ClassRecovery.Dump
