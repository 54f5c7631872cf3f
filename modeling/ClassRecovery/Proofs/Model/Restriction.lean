import Mathlib.Data.List.Basic
import ClassRecovery.Proofs.Model.Registry

/-!
# A registry without some of its classes

`Registry.Restricts keep r s` says that `s` has the classes of `r` that `keep` selects, in the same
order, and that a variable stands in `s` for the class it stands for in `r` if that class is kept,
and for nothing otherwise. Handles are renumbered: a kept class moves to its rank among the kept
ones (`rankOf`).

An operation on a kept class is matched by the same operation at its rank, and an operation on a
class that is left out by none at all.
-/

set_option autoImplicit false

namespace ClassRecovery

/-! ## Positions in a selection -/

section Rank

variable {α : Type} (keep : α → Bool)

/-- How many of the elements before this position are kept. -/
def rankOf (l : List α) (i : Nat) : Nat := (l.take i).countP keep

theorem rankOf_cons_succ (a : α) (l : List α) (i : Nat) :
    rankOf keep (a :: l) (i + 1) = rankOf keep l i + if keep a then 1 else 0 := by
  simp only [rankOf, List.take_succ_cons, List.countP_cons]

theorem rankOf_length (l : List α) : rankOf keep l l.length = (l.filter keep).length := by
  rw [rankOf, List.take_length, List.countP_eq_length_filter]

theorem rankOf_append {l : List α} {i : Nat} (h : i ≤ l.length) (m : List α) :
    rankOf keep (l ++ m) i = rankOf keep l i := by
  rw [rankOf, List.take_append_of_le_length h, rankOf]

variable {keep} {l : List α} {i : Nat} {a : α} {f : α → α}

/-- A kept element stands at its rank in the selection. -/
theorem getElem?_filter_rankOf (h : l[i]? = some a) (ha : keep a = true) :
    (l.filter keep)[rankOf keep l i]? = some a := by
  induction l generalizing i with
  | nil => cases h
  | cons b l ih =>
      cases i with
      | zero =>
          cases h
          simp [rankOf, ha]
      | succ i =>
          have hi : l[i]? = some a := by simpa using h
          rw [rankOf_cons_succ, List.filter_cons]
          cases hb : keep b with
          | false => exact ih hi
          | true => simpa using ih hi

/-- A change of a kept element is the change of the selection at its rank. -/
theorem filter_modify_of_kept (h : l[i]? = some a) (ha : keep a = true)
    (hf : keep (f a) = true) :
    (l.modify i f).filter keep = (l.filter keep).modify (rankOf keep l i) f := by
  induction l generalizing i with
  | nil => cases h
  | cons b l ih =>
      cases i with
      | zero =>
          cases h
          simp [rankOf, List.modify_zero_cons, ha, hf]
      | succ i =>
          have hi : l[i]? = some a := by simpa using h
          rw [rankOf_cons_succ, List.modify_succ_cons, List.filter_cons, List.filter_cons, ih hi]
          cases hb : keep b with
          | false => rfl
          | true => simp [List.modify_succ_cons]

/-- A change of an element that is left out does not change the selection. -/
theorem filter_modify_of_left (h : l[i]? = some a) (ha : keep a = false)
    (hf : keep (f a) = false) : (l.modify i f).filter keep = l.filter keep := by
  induction l generalizing i with
  | nil => cases h
  | cons b l ih =>
      cases i with
      | zero =>
          cases h
          simp [List.modify_zero_cons, ha, hf]
      | succ i =>
          have hi : l[i]? = some a := by simpa using h
          rw [List.modify_succ_cons, List.filter_cons, List.filter_cons, ih hi]

/-- Ranks do not change if what is kept does not. -/
theorem rankOf_modify {j : Nat} (h : ∀ a, l[j]? = some a → keep (f a) = keep a) (i : Nat) :
    rankOf keep (l.modify j f) i = rankOf keep l i := by
  induction l generalizing i j with
  | nil => simp
  | cons b l ih =>
      cases i with
      | zero => rfl
      | succ i =>
          cases j with
          | zero =>
              rw [List.modify_zero_cons, rankOf_cons_succ, rankOf_cons_succ, h b rfl]
          | succ j =>
              have hl : ∀ a, l[j]? = some a → keep (f a) = keep a := fun a ha => h a (by simpa)
              rw [List.modify_succ_cons, rankOf_cons_succ, rankOf_cons_succ, ih hl]

end Rank

/-! ## Registries -/

namespace Registry

variable {keep : ClassDef → Bool} {r s : Registry} {id place : Nat} {varId : String}
  {c : ClassDef} {f : ClassDef → ClassDef}

/-- The handle of a class among the kept ones; `none` if the class is left out or there is none. -/
def rank? (keep : ClassDef → Bool) (r : Registry) (id : Nat) : Option Nat :=
  if (r.get? id).any keep then some (rankOf keep r.classes id) else none

theorem rank?_of_kept (hc : r.get? id = some c) (hkeep : keep c = true) :
    r.rank? keep id = some (rankOf keep r.classes id) := by
  rw [rank?, hc, Option.any_some, if_pos hkeep]

theorem rank?_of_left (hc : r.get? id = some c) (hleft : keep c = false) :
    r.rank? keep id = none := by
  rw [rank?, hc, Option.any_some, hleft]
  rfl

/-- A handle among the kept classes is the rank of a kept class. -/
theorem kept_of_rank? (h : r.rank? keep id = some place) :
    ∃ c, r.get? id = some c ∧ keep c = true ∧ place = rankOf keep r.classes id := by
  obtain ⟨hany, hrank⟩ := Option.ite_none_right_eq_some.mp h
  obtain ⟨c, hc, hkeep⟩ := (Option.any_eq_true _ _).mp hany
  exact ⟨c, hc, hkeep, (Option.some.inj hrank).symm⟩

/-- A change that keeps what is kept moves no class. -/
theorem rank?_modify (h : ∀ c, keep (f c) = keep c) (place : Nat) :
    (r.modify id f).rank? keep place = r.rank? keep place := by
  have hget : ((r.modify id f).get? place).any keep = (r.get? place).any keep := by
    rw [get?_modify]
    cases r.get? place with
    | none => rfl
    | some c => by_cases hid : id = place <;> simp [hid, h]
  have hrank : rankOf keep (r.modify id f).classes place = rankOf keep r.classes place :=
    rankOf_modify (fun c _ => h c) place
  rw [rank?, rank?, hget, hrank]

theorem rank?_rebind (h : ∀ c, keep (f c) = keep c) (place : Nat) :
    (r.rebind id varId f).rank? keep place = r.rank? keep place :=
  rank?_modify h place

theorem rank?_append (h : id < r.size) (c : ClassDef) :
    (r.append c).rank? keep id = r.rank? keep id := by
  have hget : (r.append c).get? id = r.get? id := by
    rw [get?_append, if_neg (by omega)]
  have hrank : rankOf keep (r.append c).classes id = rankOf keep r.classes id :=
    rankOf_append keep (Nat.le_of_lt h) [c]
  rw [rank?, rank?, hget, hrank]

theorem get?_append_size : (r.append c).get? r.size = some c := by
  rw [get?_append, if_pos rfl]

/-- The second registry has the kept classes of the first one and the variables that stand for
them. -/
structure Restricts (keep : ClassDef → Bool) (r s : Registry) : Prop where
  classes : s.classes = r.classes.filter keep
  inRange : ∀ varId id, r.findByVar? varId = some id → id < r.size
  vars : ∀ varId, s.findByVar? varId = (r.findByVar? varId).bind (r.rank? keep)

namespace Restricts

theorem empty (keep : ClassDef → Bool) : Restricts keep {} {} where
  classes := rfl
  inRange := fun _ _ h => by cases h
  vars := fun _ => rfl

/-- A kept class has the same record in both registries. -/
theorem get?_of_rank? (h : Restricts keep r s) (hrank : r.rank? keep id = some place) :
    s.get? place = r.get? id := by
  obtain ⟨c, hc, hkeep, rfl⟩ := kept_of_rank? hrank
  rw [hc, get?, h.classes]
  exact getElem?_filter_rankOf hc hkeep

/-- A class that is added and kept has the next handle of the second registry. -/
theorem rank?_append_size (h : Restricts keep r s) (hkeep : keep c = true) :
    (r.append c).rank? keep r.size = some s.size := by
  have hrank : rankOf keep (r.append c).classes r.size = s.size := by
    calc rankOf keep (r.classes ++ [c]) r.classes.length
        = rankOf keep r.classes r.classes.length := rankOf_append keep (Nat.le_refl _) [c]
      _ = (r.classes.filter keep).length := rankOf_length keep r.classes
      _ = s.size := by rw [← h.classes, size]
  rw [rank?_of_kept get?_append_size hkeep, hrank]

/-! ### Changing a record -/

/-- A change of a kept class is made at its rank, one of another class not at all. -/
theorem modify (h : Restricts keep r s) (hf : ∀ c, keep (f c) = keep c) (hid : id < r.size) :
    Restricts keep (r.modify id f) ((r.rank? keep id).elim s fun place => s.modify place f) := by
  have hinRange : ∀ varId place, (r.modify id f).findByVar? varId = some place →
      place < (r.modify id f).size := by
    intro varId place hplace
    rw [size_modify]
    exact h.inRange varId place hplace
  obtain ⟨c, hc⟩ : ∃ c, r.get? id = some c := ⟨_, List.getElem?_eq_getElem hid⟩
  cases hkeep : keep c with
  | true =>
      rw [rank?_of_kept hc hkeep, Option.elim_some]
      refine ⟨?_, hinRange, fun varId => ?_⟩
      · show s.classes.modify _ f = (r.classes.modify id f).filter keep
        rw [h.classes, filter_modify_of_kept hc hkeep (by rw [hf, hkeep])]
      · rw [findByVar?_modify, findByVar?_modify, h.vars, funext (rank?_modify hf)]
  | false =>
      rw [rank?_of_left hc hkeep, Option.elim_none]
      refine ⟨?_, hinRange, fun varId => ?_⟩
      · show s.classes = (r.classes.modify id f).filter keep
        rw [h.classes, filter_modify_of_left hc hkeep (by rw [hf, hkeep])]
      · rw [findByVar?_modify, h.vars, funext (rank?_modify hf)]

/-! ### Adding a class -/

/-- A kept class is added to both registries. One that is left out must come with a variable that
stands for nothing yet. -/
theorem append (h : Restricts keep r s) (hfree : ∀ v, c.varId = some v → r.findByVar? v = none) :
    Restricts keep (r.append c) (if keep c then s.append c else s) := by
  have hinRange : ∀ varId id, (r.append c).findByVar? varId = some id →
      id < (r.append c).size := by
    intro varId id hid
    rw [findByVar?_append] at hid
    rw [size_append]
    split at hid
    · cases hid; omega
    · have hlt := h.inRange varId id hid
      omega
  -- the variables of earlier classes go on standing for them
  have hearlier (varId : String) :
      (r.findByVar? varId).bind ((r.append c).rank? keep) = s.findByVar? varId := by
    rw [h.vars]
    cases hid : r.findByVar? varId with
    | none => rfl
    | some id => exact rank?_append (h.inRange varId id hid) c
  cases hkeep : keep c with
  | true =>
      rw [if_pos rfl]
      refine ⟨?_, hinRange, fun varId => ?_⟩
      · show s.classes ++ [c] = (r.classes ++ [c]).filter keep
        rw [List.filter_append, h.classes]
        simp [hkeep]
      · rw [findByVar?_append, findByVar?_append]
        split
        · rw [Option.bind_some, h.rank?_append_size hkeep]
        · exact (hearlier varId).symm
  | false =>
      rw [if_neg Bool.false_ne_true]
      refine ⟨?_, hinRange, fun varId => ?_⟩
      · show s.classes = (r.classes ++ [c]).filter keep
        rw [List.filter_append, h.classes]
        simp [hkeep]
      · rw [findByVar?_append]
        split_ifs with hvar
        · rw [h.vars, hfree varId hvar.symm, Option.bind_some, rank?_of_left get?_append_size hkeep]
          rfl
        · exact (hearlier varId).symm

/-! ### Binding a variable -/

/-- A kept class gets one more variable in both registries. The variable must stand for no other
class. -/
theorem rebind (h : Restricts keep r s) (hf : ∀ c, keep (f c) = keep c) (hid : id < r.size)
    (hown : ∀ existing, r.findByVar? varId = some existing → existing = id) :
    Restricts keep (r.rebind id varId f)
      ((r.rank? keep id).elim s fun place => s.rebind place varId f) := by
  have hmodify := h.modify hf hid
  have hinRange : ∀ other place, (r.rebind id varId f).findByVar? other = some place →
      place < (r.rebind id varId f).size := by
    intro other place hplace
    rw [findByVar?_rebind] at hplace
    rw [size_rebind]
    split at hplace
    · cases hplace; exact hid
    · exact h.inRange other place hplace
  cases hrank : r.rank? keep id with
  | some place =>
      rw [hrank] at hmodify
      refine ⟨hmodify.classes, hinRange, fun other => ?_⟩
      rw [Option.elim_some, findByVar?_rebind, findByVar?_rebind, funext (rank?_rebind hf)]
      split
      · rw [Option.bind_some, hrank]
      · exact h.vars other
  | none =>
      rw [hrank] at hmodify
      refine ⟨hmodify.classes, hinRange, fun other => ?_⟩
      rw [Option.elim_none, findByVar?_rebind, funext (rank?_rebind hf), h.vars]
      split_ifs with hother
      · subst hother
        rw [Option.bind_some, hrank]
        -- before, the variable stood for this class or for nothing
        cases hfound : r.findByVar? other with
        | none => rfl
        | some existing => rw [hown existing hfound, Option.bind_some, hrank]
      · rfl

/-- A variable that may be bound to a kept class may be bound to it in the other registry. -/
theorem own (h : Restricts keep r s) (hrank : r.rank? keep id = some place)
    (hown : ∀ existing, r.findByVar? varId = some existing → existing = id) :
    ∀ existing, s.findByVar? varId = some existing → existing = place := by
  intro existing hfound
  rw [h.vars] at hfound
  obtain ⟨other, hother, hexisting⟩ := Option.bind_eq_some_iff.mp hfound
  rw [hown other hother, hrank] at hexisting
  exact (Option.some.inj hexisting).symm

end Restricts

end Registry

end ClassRecovery
