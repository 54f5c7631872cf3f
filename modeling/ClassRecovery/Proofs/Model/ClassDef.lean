import ClassRecovery.Model.ClassDef
import ClassRecovery.Proofs.Text.Cut

/-!
# Names of classes

What the keys and the qualified names of classes are made of, and which changes of a class leave
them alone.
-/

set_option autoImplicit false

namespace ClassRecovery.ClassDef

variable {q : String} {c : ClassDef}

theorem colon_mem_memberKey (c : ClassDef) (member : String) :
    ':' ∈ (c.memberKey member).toList := by
  simp [memberKey, String.toList_append]

theorem dot_mem_qualifiedName (h : c.space ≠ "") : '.' ∈ c.qualifiedName.toList := by
  have hspace : c.space.isEmpty = false := by simpa using h
  simp [qualifiedName, hspace, String.toList_append]

theorem qualifiedName_ne (h : c.space ≠ "") : c.qualifiedName ≠ "" := by
  intro hempty
  have hdot := dot_mem_qualifiedName h
  rw [hempty] at hdot
  cases hdot

/-- A dotted name is cut at its last dot, if something stands on either side of it. -/
theorem splitQualified?_eq_some_iff {space name : String} :
    splitQualified? q = some (space, name) ↔
      space ++ "." ++ name = q ∧ space ≠ "" ∧ name ≠ "" ∧ '.' ∉ name.toList := by
  have hcut (left right : List Char) :
      Text.splitLast? ['.'] q.toList = some (left, right) ↔
        q.toList = left ++ '.' :: right ∧ '.' ∉ right := by
    rw [Text.splitLast?_eq_some_iff List.not_mem_nil, List.singleton_infix_iff]
    rfl
  unfold splitQualified?
  constructor
  · intro h
    cases hsplit : Text.splitLast? ['.'] q.toList with
    | none =>
        rw [hsplit] at h
        cases h
    | some sides =>
        rw [hsplit] at h
        obtain ⟨hempty, hsides⟩ := Option.ite_none_left_eq_some.mp h
        cases hsides
        obtain ⟨happend, hdot⟩ := (hcut sides.1 sides.2).mp hsplit
        simp only [Bool.or_eq_true, List.isEmpty_iff, not_or] at hempty
        refine ⟨?_, by simpa using hempty.1, by simpa using hempty.2, by simpa using hdot⟩
        rw [← String.toList_inj, happend]
        simp [String.toList_append]
  · rintro ⟨happend, hspace, hname, hdot⟩
    have hsplit := (hcut space.toList name.toList).mpr
      ⟨by simp [← happend, String.toList_append], hdot⟩
    rw [hsplit]
    simp [hspace, hname]

/-- A dotted name is made of the namespace, which is not empty, a dot and the name. -/
theorem append_of_splitQualified? {qualified space name : String}
    (h : splitQualified? qualified = some (space, name)) :
    space ≠ "" ∧ space ++ "." ++ name = qualified := by
  obtain ⟨happend, hspace, -⟩ := splitQualified?_eq_some_iff.mp h
  exact ⟨hspace, happend⟩

/-- A class that has been named has a namespace. -/
theorem space_ne_of_ofQualified? {qualified : String} (h : ofQualified? qualified = some c) :
    c.space ≠ "" := by
  obtain ⟨⟨space, name⟩, hsplit, rfl⟩ := Option.map_eq_some_iff.mp h
  exact (append_of_splitQualified? hsplit).1

theorem qualifiedName_of_splitQualified? {qualified : String}
    (h : splitQualified? qualified = some (c.space, c.name)) : c.qualifiedName = qualified := by
  obtain ⟨hspace, happend⟩ := append_of_splitQualified? h
  have hnonempty : c.space.isEmpty = false := by simpa using hspace
  rw [qualifiedName, hnonempty, if_neg Bool.false_ne_true, happend]

/-- The class has another name. -/
def isOther (q : String) (c : ClassDef) : Bool := c.qualifiedName != q

theorem isOther_eq_true : c.isOther q = true ↔ c.qualifiedName ≠ q := bne_iff_ne

theorem isOther_eq_false : c.isOther q = false ↔ c.qualifiedName = q := by
  simp [isOther]

/-- The change leaves the names and the variable of a class alone. -/
def KeepsIdentity (f : ClassDef → ClassDef) : Prop :=
  ∀ c, (f c).space = c.space ∧ (f c).name = c.name ∧ (f c).varId = c.varId

theorem KeepsIdentity.qualifiedName {f : ClassDef → ClassDef} (h : KeepsIdentity f)
    (c : ClassDef) : (f c).qualifiedName = c.qualifiedName := by
  simp only [ClassDef.qualifiedName, (h c).1, (h c).2.1]

theorem KeepsIdentity.isOther {f : ClassDef → ClassDef} (h : KeepsIdentity f) (q : String)
    (c : ClassDef) : (f c).isOther q = c.isOther q := by
  simp only [ClassDef.isOther, h.qualifiedName c]

end ClassRecovery.ClassDef
