import ClassRecovery.Proofs.Model.ClassDef
import ClassRecovery.Model.Registry
import ClassRecovery.Proofs.Outcome

/-!
# Operations on a registry

What each operation does to the list of classes, seen through `get?`, and to the index of
variables, seen through `findByVar?`, and exactly when an operation is refused.

A change of all records that leaves alone what the indexes are made of commutes with every
operation of a run (`insert_modifyAll`, `bindVar_modifyAll`).
-/

set_option autoImplicit false

namespace ClassRecovery

namespace Index

theorem find?_bind (index : Index) (key other : String) (id : Nat) :
    (index.bind key id).find? other = if other = key then some id else index.find? other := by
  simp only [find?, Index.bind, List.lookup_cons]
  by_cases h : other = key
  · subst h; simp
  · have hne : (other == key) = false := by simpa using h
    simp [hne, h]

theorem find?_bindSome (index : Index) (key : Option String) (other : String) (id : Nat) :
    (index.bindSome key id).find? other
      = if some other = key then some id else index.find? other := by
  cases key with
  | none => rfl
  | some key => simp only [bindSome, find?_bind, Option.some.injEq]

end Index

namespace Registry

variable (r : Registry) (c : ClassDef) (id place : Nat) (varId other : String)
  (f : ClassDef → ClassDef)

/-! ## Changing a record -/

theorem get?_modify :
    (r.modify id f).get? place = (r.get? place).map fun c => if id = place then f c else c :=
  List.getElem?_modify f id r.classes place

theorem size_modify : (r.modify id f).size = r.size :=
  List.length_modify f r.classes id

theorem findByVar?_modify : (r.modify id f).findByVar? varId = r.findByVar? varId := rfl

/-! ## Adding a class -/

theorem get?_append :
    (r.append c).get? place = if place = r.size then some c else r.get? place := by
  show (r.classes ++ [c])[place]? = if place = r.classes.length then some c else r.classes[place]?
  rcases lt_trichotomy place r.classes.length with hlt | rfl | hlt
  · rw [if_neg hlt.ne, List.getElem?_append_left hlt]
  · rw [if_pos rfl, List.getElem?_concat_length]
  · rw [if_neg hlt.ne', List.getElem?_eq_none (by simp; omega), List.getElem?_eq_none hlt.le]

theorem size_append : (r.append c).size = r.size + 1 := by
  show (r.classes ++ [c]).length = r.classes.length + 1
  simp

theorem findByVar?_append :
    (r.append c).findByVar? varId
      = if some varId = c.varId then some r.size else r.findByVar? varId :=
  Index.find?_bindSome r.byVar c.varId varId r.size

variable {r c id varId} {s : Registry}

theorem get?_eq_some_lt (h : r.get? id = some c) : id < r.size :=
  (List.getElem?_eq_some_iff.mp h).1

theorem exists_get? (h : id < r.size) : ∃ c, r.get? id = some c :=
  ⟨r.classes[id], List.getElem?_eq_getElem h⟩

/-- A class is registered exactly when its variable stands for nothing yet. -/
theorem insert_eq_ok_iff :
    r.insert c = .ok (id, s) ↔
      (∀ v, c.varId = some v → r.findByVar? v = none) ∧ id = r.size ∧ s = r.append c := by
  unfold insert
  cases hvar : c.varId with
  | none => simp [eq_comm]
  | some v => cases hfound : r.findByVar? v <;> simp [hfound, eq_comm]

/-! ## Binding a variable -/

variable (r id varId)

/-- The registry in which one more variable stands for a class, whose record changes. -/
def rebind (r : Registry) (id : Nat) (varId : String) (f : ClassDef → ClassDef) : Registry :=
  { r.modify id f with byVar := r.byVar.bind varId id }

theorem get?_rebind :
    (r.rebind id varId f).get? place = (r.get? place).map fun c => if id = place then f c else c :=
  get?_modify r id place f

theorem size_rebind : (r.rebind id varId f).size = r.size :=
  size_modify r id f

theorem findByVar?_rebind :
    (r.rebind id varId f).findByVar? other
      = if other = varId then some id else r.findByVar? other :=
  Index.find?_bind r.byVar varId other id

/-- A binding and a change of the record together. -/
theorem modify_bound :
    (bindVar.bound id varId r).modify id f
      = r.rebind id varId fun c => f { c with varId := some varId } := by
  unfold bindVar.bound rebind modify
  dsimp only
  rw [List.modify_modify_eq]
  rfl

variable {r id varId}

/-- A variable is bound exactly when the handle is one and the variable stands for no other
class. -/
theorem bindVar_eq_ok_iff :
    r.bindVar id varId = .ok s ↔
      id < r.size ∧ (∀ existing, r.findByVar? varId = some existing → existing = id) ∧
        s = bindVar.bound id varId r := by
  unfold bindVar
  by_cases hsize : r.size ≤ id
  · have hnot : ¬ id < r.size := by omega
    simp [hsize, hnot]
  · have hlt : id < r.size := by omega
    cases hfound : r.findByVar? varId with
    | none => simp [hsize, hlt, eq_comm]
    | some existing =>
        by_cases heq : existing = id
        · subst heq; simp [hsize, hlt, eq_comm]
        · simp [hsize, heq]

/-! ## Changing all records -/

section ModifyAll

/-- A change of all elements and a change of one of them, in either order. -/
theorem map_modify_of_commute {α β : Type} {f : α → β} {g : α → α} {g' : β → β} {l : List α}
    {i : Nat} (h : ∀ a, l[i]? = some a → f (g a) = g' (f a)) :
    (l.modify i g).map f = (l.map f).modify i g' := by
  apply List.ext_getElem?
  intro j
  rw [List.getElem?_map, List.getElem?_modify, List.getElem?_modify, List.getElem?_map]
  cases hj : l[j]? with
  | none => rfl
  | some a =>
      by_cases hij : i = j
      · subst hij
        simp [h a hj]
      · simp [hij]

/-- A change of one element that does not show in the images of the elements. -/
theorem map_modify_of_same {α β : Type} {f : α → β} {g : α → α} {l : List α} {i : Nat}
    (h : ∀ a, f (g a) = f a) : (l.modify i g).map f = l.map f := by
  have hcommute : (l.modify i g).map f = (l.map f).modify i id :=
    map_modify_of_commute fun a _ => h a
  rw [hcommute, List.modify_id]

variable {f : ClassDef → ClassDef} {g g' : ClassDef → ClassDef} (r id)

theorem get?_modifyAll : (r.modifyAll f).get? id = (r.get? id).map f :=
  List.getElem?_map

theorem size_modifyAll : (r.modifyAll f).size = r.size :=
  List.length_map f

variable {r id}

/-- A change of all records and a change of one of them, in either order. -/
theorem modify_modifyAll (h : ∀ c, r.get? id = some c → f (g c) = g' (f c)) :
    (r.modify id g).modifyAll f = (r.modifyAll f).modify id g' := by
  unfold modify modifyAll
  rw [map_modify_of_commute h]

variable (hf : ClassDef.KeepsIdentity f)

include hf

theorem nameOf_modifyAll : (r.modifyAll f).nameOf id = r.nameOf id := by
  unfold nameOf
  rw [get?_modifyAll, Option.map_map]
  congr 2
  funext c
  exact hf.qualifiedName c

theorem append_modifyAll (hdoc : ∀ c, (f c).docId = c.docId) (c : ClassDef) :
    (r.append c).modifyAll f = (r.modifyAll f).append (f c) := by
  unfold append modifyAll addToIndexes
  simp only [List.map_append, List.map_cons, List.map_nil, hf.qualifiedName c, (hf c).2.2, hdoc c,
    size, List.length_map]

/-- To register a changed class among changed classes is to register it and change them all. -/
theorem insert_modifyAll (hdoc : ∀ c, (f c).docId = c.docId) (c : ClassDef) :
    (r.modifyAll f).insert (f c) = (r.insert c).map fun (id, s) => (id, s.modifyAll f) := by
  have hbound : (f c).varId.bind (fun v => ((r.modifyAll f).findByVar? v).map fun id => (v, id))
      = c.varId.bind fun v => (r.findByVar? v).map fun id => (v, id) := by
    rw [(hf c).2.2]
    rfl
  unfold insert
  rw [hbound]
  cases c.varId.bind fun v => (r.findByVar? v).map fun id => (v, id) with
  | none => simp only [Except.map, size_modifyAll, append_modifyAll hf hdoc]
  | some found => simp only [Except.map, nameOf_modifyAll hf, hf.qualifiedName c]

/-- To bind a variable among changed classes is to bind it and change them all. -/
theorem bindVar_modifyAll (hvar : ∀ c v, f { c with varId := some v } = { f c with varId := some v })
    (v : String) :
    (r.modifyAll f).bindVar id v = (r.bindVar id v).map (modifyAll · f) := by
  have hmodify : (r.modifyAll f).modify id (fun c => { c with varId := some v })
      = (r.modify id fun c => { c with varId := some v }).modifyAll f :=
    (modify_modifyAll fun c _ => hvar c v).symm
  have hbound : bindVar.bound id v (r.modifyAll f) = (bindVar.bound id v r).modifyAll f := by
    unfold bindVar.bound
    rw [hmodify]
    rfl
  have hfound : (r.modifyAll f).findByVar? v = r.findByVar? v := rfl
  unfold bindVar
  rw [size_modifyAll, hfound, hbound]
  split
  · rfl
  · split
    · split
      · rfl
      · simp only [Except.map, nameOf_modifyAll hf]
    · rfl

end ModifyAll

end Registry

end ClassRecovery
