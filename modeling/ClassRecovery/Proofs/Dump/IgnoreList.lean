import ClassRecovery.Dump.IgnoreList
import ClassRecovery.Proofs.Model.ClassDef
import ClassRecovery.Proofs.Text.Blank

/-!
# Names that are ignored

What an ignore list ignores after one more name, and that it forgets none. `IgnoreList.Adds`
compares the lists of two runs, one of which ignores one more class: the lists agree on the keys of
members and on the names of other classes.
-/

set_option autoImplicit false

namespace ClassRecovery

namespace IgnoreList

variable {list : IgnoreList} {name other : String}

/-- An insertion ignores the trimmed name, unless nothing is left of it, and what was ignored
before. -/
theorem contains_insert_iff :
    (list.insert name).contains other = true ↔
      list.contains other = true ∨ (other = Text.trimmed name ∧ other ≠ "") := by
  unfold insert
  dsimp only
  by_cases hempty : (Text.trimmed name).isEmpty = true
  · have hname : Text.trimmed name = "" := by simpa using hempty
    rw [if_pos (by rw [hempty, Bool.true_or]), hname]
    exact ⟨.inl, fun h => h.resolve_right fun ⟨heq, hne⟩ => hne heq⟩
  · have hname : Text.trimmed name ≠ "" := by simpa using hempty
    by_cases hknown : list.contains (Text.trimmed name) = true
    · rw [if_pos (by rw [hknown, Bool.or_true])]
      exact ⟨.inl, fun h => h.elim id fun ⟨heq, _⟩ => heq ▸ hknown⟩
    · rw [if_neg (by simp [hempty, hknown])]
      simp only [contains, List.contains_iff_mem, List.mem_append, List.mem_singleton]
      exact or_congr_right ⟨fun h => ⟨h, h ▸ hname⟩, fun h => h.1⟩

theorem contains_insert_of_contains (h : list.contains other = true) :
    (list.insert name).contains other = true :=
  contains_insert_iff.mpr (.inl h)

/-- What the larger of two lists does not ignore, the smaller one does not either. -/
theorem contains_eq_false {larger : IgnoreList}
    (known : ∀ name, list.contains name = true → larger.contains name = true)
    (h : larger.contains name = false) : list.contains name = false := by
  cases hname : list.contains name with
  | false => rfl
  | true => rw [known name hname] at h; cases h

end IgnoreList

/-! ## Plain names -/

/-- A text without dots, colons and white space. -/
def isPlain (name : String) : Bool :=
  name.toList.all fun c => c != '.' && c != ':' && !Text.isBlank c

variable {q name varId : String} {c : ClassDef}

theorem not_mem_of_isPlain (h : isPlain name = true) :
    '.' ∉ name.toList ∧ ':' ∉ name.toList := by
  have hall := List.all_eq_true.mp h
  exact ⟨fun hdot => by simpa using hall '.' hdot, fun hcolon => by simpa using hall ':' hcolon⟩

theorem trimmed_of_isPlain (h : isPlain name = true) : Text.trimmed name = name := by
  refine Text.trimmed_of_no_blank fun c hc => ?_
  have hc' := List.all_eq_true.mp h c hc
  simp only [Bool.and_eq_true, Bool.not_eq_true'] at hc'
  exact hc'.2

/-! ## One more class -/

/-- The larger list ignores what the other one does, the name `q`, and else only plain names. -/
structure IgnoreList.Adds (q : String) (list larger : IgnoreList) : Prop where
  known : ∀ name, list.contains name = true → larger.contains name = true
  fresh : ∀ name, larger.contains name = true →
    list.contains name = true ∨ name = q ∨ isPlain name = true
  named : q ≠ "" → larger.contains q = true

namespace IgnoreList.Adds

variable {list larger : IgnoreList}

/-- The lists differ in no name with a dot or a colon but `q`. -/
theorem contains_eq (h : Adds q list larger) (hne : name ≠ q)
    (hmark : '.' ∈ name.toList ∨ ':' ∈ name.toList) :
    larger.contains name = list.contains name := by
  cases hlist : list.contains name with
  | true => exact h.known name hlist
  | false =>
      cases hlarger : larger.contains name with
      | false => rfl
      | true =>
          -- a name that only the larger list ignores is plain, unless it is `q`
          rcases h.fresh name hlarger with hknown | hq | hplain
          · rw [hlist] at hknown; cases hknown
          · exact absurd hq hne
          · obtain ⟨hdot, hcolon⟩ := not_mem_of_isPlain hplain
            exact (hmark.elim hdot hcolon).elim

theorem contains_memberKey (h : Adds q list larger) (hq : ':' ∉ q.toList) (c : ClassDef)
    (member : String) :
    larger.contains (c.memberKey member) = list.contains (c.memberKey member) := by
  have hcolon := c.colon_mem_memberKey member
  refine h.contains_eq (fun heq => hq ?_) (.inr hcolon)
  rw [← heq]
  exact hcolon

theorem contains_qualifiedName (h : Adds q list larger) (hspace : c.space ≠ "")
    (hother : c.qualifiedName ≠ q) :
    larger.contains c.qualifiedName = list.contains c.qualifiedName :=
  h.contains_eq hother (.inl (ClassDef.dot_mem_qualifiedName hspace))

theorem insert_both (h : Adds q list larger) (varId : String) :
    Adds q (list.insert varId) (larger.insert varId) where
  known := fun name hname => by
    rw [contains_insert_iff] at hname ⊢
    exact hname.imp_left (h.known name)
  fresh := fun name hname => by
    rw [contains_insert_iff] at hname ⊢
    rcases hname with hname | hname
    · exact (h.fresh name hname).imp_left .inl
    · exact .inl (.inr hname)
  named := fun hq => contains_insert_of_contains (h.named hq)

theorem insert_plain (h : Adds q list larger) (hplain : isPlain varId = true) :
    Adds q list (larger.insert varId) where
  known := fun name hname => contains_insert_of_contains (h.known name hname)
  fresh := fun name hname => by
    rcases contains_insert_iff.mp hname with hname | ⟨rfl, -⟩
    · exact h.fresh name hname
    · rw [trimmed_of_isPlain hplain]
      exact .inr (.inr hplain)
  named := fun hq => contains_insert_of_contains (h.named hq)

theorem insert_name (list : IgnoreList) (htrimmed : Text.trimmed q = q) :
    Adds q list (list.insert q) where
  known := fun name hname => contains_insert_of_contains hname
  fresh := fun name hname => by
    rcases contains_insert_iff.mp hname with hname | ⟨rfl, -⟩
    · exact .inl hname
    · exact .inr (.inl htrimmed)
  named := fun hq => contains_insert_iff.mpr (.inr ⟨htrimmed.symm, hq⟩)

end IgnoreList.Adds

end ClassRecovery
