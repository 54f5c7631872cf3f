import Mathlib.Data.List.Induction
import Mathlib.Data.List.Nodup
import ClassRecovery.Proofs.Model.Registry

/-!
# Indexes computed from keys

`Index.ofKeys` is the index of a list of optional keys: a key stands for the last position at which
it occurs. A rebuilt registry has indexes of this kind (`rebuildIndexes_eq`), and so has any
registry for the names of its classes, as long as classes are only added and keep their names
(`NamesIndexed`).

The index of variables is another matter, since a class may be bound to several variables and
records only the newest one. `VarsRecorded` is the invariant that ties that index to the records;
from it follows what a rebuild leaves of the index (`findByVar?_rebuildIndexes_iff`).
-/

set_option autoImplicit false

namespace ClassRecovery

namespace Index

/-- The index of a list of keys: each position that has a key is bound to it, in order. -/
def ofKeys (keys : List (Option String)) : Index :=
  keys.zipIdx.foldl (fun index entry => index.bindSome entry.1 entry.2) {}

variable {keys : List (Option String)} {key : String} {id : Nat}

theorem ofKeys_append (keys : List (Option String)) (last : Option String) :
    ofKeys (keys ++ [last]) = (ofKeys keys).bindSome last keys.length := by
  unfold ofKeys
  rw [List.zipIdx_append, List.foldl_append]
  simp

/-- A key stands for the last position at which it occurs. -/
theorem find?_ofKeys_eq_some_iff :
    (ofKeys keys).find? key = some id ↔
      keys[id]? = some (some key) ∧ ∀ later, id < later → keys[later]? ≠ some (some key) := by
  induction keys using List.reverseRecOn with
  | nil => simp [ofKeys, find?]
  | append_singleton keys last ih =>
      rw [ofKeys_append, find?_bindSome]
      by_cases hlast : some key = last
      · subst hlast
        rw [if_pos rfl, Option.some.injEq]
        constructor
        · rintro rfl
          refine ⟨List.getElem?_concat_length, fun later hlater => ?_⟩
          have hnone : (keys ++ [some key])[later]? = none :=
            List.getElem?_eq_none (by simp; omega)
          simp [hnone]
        · rintro ⟨hid, hlater⟩
          -- the last position has the key, so no earlier one counts
          have hlt := (List.getElem?_eq_some_iff.mp hid).1
          rw [List.length_append, List.length_singleton] at hlt
          by_contra hne
          exact hlater keys.length (by omega) List.getElem?_concat_length
      · have hsame (place : Nat) :
            (keys ++ [last])[place]? = some (some key) ↔ keys[place]? = some (some key) := by
          rcases Nat.lt_trichotomy place keys.length with hlt | rfl | hgt
          · rw [List.getElem?_append_left hlt]
          · simp [Ne.symm hlast]
          · rw [List.getElem?_eq_none (by simp; omega), List.getElem?_eq_none (by omega)]
        simp only [if_neg hlast, ih, ne_eq, hsame]

/-- A key that occurs nowhere stands for nothing. -/
theorem find?_ofKeys_eq_none_iff : (ofKeys keys).find? key = none ↔ some key ∉ keys := by
  induction keys using List.reverseRecOn with
  | nil => simp [ofKeys, find?]
  | append_singleton keys last ih =>
      rw [ofKeys_append, find?_bindSome]
      by_cases hlast : some key = last
      · simp [hlast]
      · rw [if_neg hlast, ih]
        simp [hlast]

/-- Distinct names are the ones that all stand for their own positions. -/
theorem forall_find?_ofKeys_iff_nodup {names : List String} :
    (∀ id name, names[id]? = some name → (ofKeys (names.map some)).find? name = some id) ↔
      names.Nodup := by
  have hget (place : Nat) (name : String) :
      (names.map some)[place]? = some (some name) ↔ names[place]? = some name := by
    simp
  simp only [find?_ofKeys_eq_some_iff, hget, ne_eq, List.nodup_iff_getElem?_ne_getElem?]
  constructor
  · intro h id later hlater hlt heq
    have hid : id < names.length := by omega
    have hname := List.getElem?_eq_getElem hid
    exact (h id names[id] hname).2 later hlater (heq.symm.trans hname)
  · intro h id name hname
    refine ⟨hname, fun later hlater hagain => ?_⟩
    have hlt := (List.getElem?_eq_some_iff.mp hagain).1
    exact h id later hlater hlt (hname.trans hagain.symm)

/-! ## Names and handles -/

/-- The newest name that stands for this handle. -/
def newest? (index : Index) (id : Nat) : Option String :=
  (index.entries.find? fun entry => entry.2 == id).map Prod.fst

variable {index : Index}

theorem newest?_bind (key : String) (id place : Nat) :
    (index.bind key id).newest? place = if id = place then some key else index.newest? place := by
  unfold newest? Index.bind
  rw [List.find?_cons]
  by_cases h : id = place
  · simp [h]
  · have hne : (id == place) = false := beq_false_of_ne h
    simp [h, hne]

theorem newest?_bindSome (key : Option String) (id place : Nat) :
    (index.bindSome key id).newest? place
      = if id = place then key.or (index.newest? place) else index.newest? place := by
  cases key with
  | none => rw [Option.none_or, ite_self]; rfl
  | some key => exact newest?_bind key id place

theorem mem_of_find? (h : index.find? key = some id) : (key, id) ∈ index.entries := by
  obtain ⟨before, after, hentries, -⟩ := List.lookup_eq_some_iff.mp h
  rw [hentries]
  exact List.mem_append_right _ List.mem_cons_self

theorem mem_of_newest? (h : index.newest? id = some key) : (key, id) ∈ index.entries := by
  obtain ⟨⟨found, place⟩, hfound, rfl⟩ := Option.map_eq_some_iff.mp h
  have hplace : place = id := by simpa using List.find?_some hfound
  subst hplace
  exact List.mem_of_find?_eq_some hfound

theorem mem_bindSome {place : Nat} {last : Option String} :
    (key, id) ∈ (index.bindSome last place).entries ↔
      last = some key ∧ id = place ∨ (key, id) ∈ index.entries := by
  cases last with
  | none => simp [bindSome]
  | some last => simp [bindSome, bind, eq_comm]

theorem exists_find?_of_mem (h : (key, id) ∈ index.entries) : ∃ place, index.find? key = some place := by
  cases hfound : index.find? key with
  | some place => exact ⟨place, rfl⟩
  | none =>
      have hne := List.lookup_eq_none_iff.mp hfound _ h
      simp at hne

end Index

namespace Registry

variable {r s : Registry} {c : ClassDef} {id : Nat} {varId : String} {f : ClassDef → ClassDef}

/-! ## What identifies the classes -/

/-- The qualified names of the classes. -/
def names (r : Registry) : List String := r.classes.map ClassDef.qualifiedName

/-- The variables of the classes. -/
def vars (r : Registry) : List (Option String) := r.classes.map ClassDef.varId

theorem length_names (r : Registry) : r.names.length = r.size := List.length_map _

theorem length_vars (r : Registry) : r.vars.length = r.size := List.length_map _

theorem getElem?_names (r : Registry) (id : Nat) :
    r.names[id]? = (r.get? id).map ClassDef.qualifiedName :=
  List.getElem?_map

theorem getElem?_vars (r : Registry) (id : Nat) : r.vars[id]? = (r.get? id).map ClassDef.varId :=
  List.getElem?_map

theorem names_append (r : Registry) (c : ClassDef) :
    (r.append c).names = r.names ++ [c.qualifiedName] :=
  List.map_append

theorem names_modify (hf : ∀ c, (f c).qualifiedName = c.qualifiedName) (r : Registry) (id : Nat) :
    (r.modify id f).names = r.names :=
  map_modify_of_same hf

theorem vars_modify (hf : ∀ c, (f c).varId = c.varId) (r : Registry) (id : Nat) :
    (r.modify id f).vars = r.vars :=
  map_modify_of_same hf

/-- The registries have the same classes under the same names and variables. -/
structure SameIdentities (r s : Registry) : Prop where
  names : s.names = r.names
  vars : s.vars = r.vars
  byName : s.byName = r.byName
  byVar : s.byVar = r.byVar

namespace SameIdentities

theorem refl (r : Registry) : r.SameIdentities r := ⟨rfl, rfl, rfl, rfl⟩

theorem trans {t : Registry} (h : r.SameIdentities s) (k : s.SameIdentities t) :
    r.SameIdentities t where
  names := k.names.trans h.names
  vars := k.vars.trans h.vars
  byName := k.byName.trans h.byName
  byVar := k.byVar.trans h.byVar

theorem modify (r : Registry) (id : Nat) (hf : ClassDef.KeepsIdentity f) :
    r.SameIdentities (r.modify id f) where
  names := names_modify hf.qualifiedName r id
  vars := vars_modify (fun c => (hf c).2.2) r id
  byName := rfl
  byVar := rfl

theorem setDocId (r : Registry) (id : Nat) (docId : Option String) :
    r.SameIdentities (r.setDocId id docId) := by
  have hmodify : r.SameIdentities (r.modify id fun c => { c with docId := docId }) :=
    .modify r id fun _ => ⟨rfl, rfl, rfl⟩
  unfold Registry.setDocId
  split
  · exact .refl r
  · exact ⟨hmodify.names, hmodify.vars, rfl, rfl⟩

theorem size_eq (h : r.SameIdentities s) : s.size = r.size := by
  rw [← length_vars, h.vars, length_vars]

theorem exists_get? {d : ClassDef} (h : r.SameIdentities s) (hd : s.get? id = some d) :
    ∃ c, r.get? id = some c ∧ d.qualifiedName = c.qualifiedName ∧ d.varId = c.varId := by
  have hname : r.names[id]? = some d.qualifiedName := by
    rw [← h.names, getElem?_names, hd, Option.map_some]
  have hvarId : r.vars[id]? = some d.varId := by
    rw [← h.vars, getElem?_vars, hd, Option.map_some]
  rw [getElem?_names, Option.map_eq_some_iff] at hname
  obtain ⟨c, hc, hname⟩ := hname
  rw [getElem?_vars, hc, Option.map_some] at hvarId
  exact ⟨c, hc, hname.symm, (Option.some.inj hvarId).symm⟩

end SameIdentities

/-! ## Names -/

/-- The index of names is the one computed from the classes. -/
def NamesIndexed (r : Registry) : Prop := r.byName = Index.ofKeys (r.names.map some)

namespace NamesIndexed

theorem empty : NamesIndexed {} := rfl

theorem same (h : r.NamesIndexed) (hsame : r.SameIdentities s) : s.NamesIndexed := by
  unfold NamesIndexed
  rw [hsame.byName, hsame.names]
  exact h

theorem append (h : r.NamesIndexed) (c : ClassDef) : (r.append c).NamesIndexed := by
  unfold NamesIndexed
  rw [names_append, List.map_append, List.map_singleton, Index.ofKeys_append, List.length_map,
    length_names, ← h]
  rfl

theorem rebind (h : r.NamesIndexed) (hf : ∀ c, (f c).qualifiedName = c.qualifiedName) (id : Nat)
    (varId : String) : (r.rebind id varId f).NamesIndexed := by
  have hnames : (r.rebind id varId f).names = r.names := names_modify hf r id
  unfold NamesIndexed
  rw [hnames]
  exact h

end NamesIndexed

theorem NamesIndexed.findByName?_eq_none_iff (h : r.NamesIndexed) {q : String} :
    r.findByName? q = none ↔ q ∉ r.names := by
  unfold findByName?
  rw [h, Index.find?_ofKeys_eq_none_iff]
  simp

/-- What is found under a name is a class of that name. -/
theorem NamesIndexed.exists_of_findByName? (h : r.NamesIndexed) {q : String}
    (hfound : r.findByName? q = some id) : ∃ c, r.get? id = some c ∧ c.qualifiedName = q := by
  have hname : r.names[id]? = some q := by
    unfold findByName? at hfound
    rw [h, Index.find?_ofKeys_eq_some_iff] at hfound
    simpa using hfound.1
  rw [getElem?_names] at hname
  exact Option.map_eq_some_iff.mp hname

/-- The names of the classes are distinct exactly when each class is the one found under its
name. -/
theorem NamesIndexed.nodup_iff (h : r.NamesIndexed) :
    r.names.Nodup ↔ ∀ id c, r.get? id = some c → r.findByName? c.qualifiedName = some id := by
  unfold findByName?
  rw [h, ← Index.forall_find?_ofKeys_iff_nodup]
  simp only [getElem?_names, Option.map_eq_some_iff]
  constructor
  · intro hfind id c hc
    exact hfind id c.qualifiedName ⟨c, hc, rfl⟩
  · rintro hfind id name ⟨c, hc, rfl⟩
    exact hfind id c hc

/-! ## Variables -/

/-- Every variable stands for one class of the registry, and a class records its newest one. -/
structure VarsRecorded (r : Registry) : Prop where
  inRange : ∀ varId id, (varId, id) ∈ r.byVar.entries → id < r.size
  single : ∀ varId id place, (varId, id) ∈ r.byVar.entries → (varId, place) ∈ r.byVar.entries →
    id = place
  recorded : ∀ id varId, r.vars[id]? = some varId → varId = r.byVar.newest? id

namespace VarsRecorded

theorem empty : VarsRecorded {} := by
  constructor
  · intro varId id h; cases h
  · intro varId id place h; cases h
  · intro id varId h; cases h

theorem same (h : r.VarsRecorded) (hsame : r.SameIdentities s) : s.VarsRecorded := by
  constructor
  · rw [hsame.byVar, hsame.size_eq]
    exact h.inRange
  · rw [hsame.byVar]
    exact h.single
  · rw [hsame.byVar, hsame.vars]
    exact h.recorded

/-- One more entry keeps variables single if its variable is free or stands for the same class. -/
theorem single_bind (h : r.VarsRecorded)
    (hown : ∀ existing, r.findByVar? varId = some existing → existing = id) (other : String)
    (place place' : Nat) (hplace : (other, place) ∈ (r.byVar.bind varId id).entries)
    (hplace' : (other, place') ∈ (r.byVar.bind varId id).entries) : place = place' := by
  have hold : ∀ place, (varId, place) ∈ r.byVar.entries → place = id := by
    intro place hmem
    obtain ⟨existing, hfound⟩ := Index.exists_find?_of_mem hmem
    calc place = existing := h.single varId _ _ hmem (Index.mem_of_find? hfound)
      _ = id := hown existing hfound
  rcases List.mem_cons.mp hplace with hnew | hmem <;>
    rcases List.mem_cons.mp hplace' with hnew' | hmem'
  · cases hnew; cases hnew'; rfl
  · cases hnew; exact (hold place' hmem').symm
  · cases hnew'; exact hold place hmem
  · exact h.single other _ _ hmem hmem'

/-- One more class, whose variable, if it has one, stands for nothing yet. -/
theorem append (h : r.VarsRecorded)
    (hfree : ∀ varId, c.varId = some varId → r.findByVar? varId = none) :
    (r.append c).VarsRecorded := by
  have hbyVar : (r.append c).byVar = r.byVar.bindSome c.varId r.size := rfl
  constructor
  · intro other id hmem
    rw [size_append]
    rw [hbyVar] at hmem
    rcases Index.mem_bindSome.mp hmem with ⟨-, rfl⟩ | hold
    · omega
    · have hlt := h.inRange other id hold
      omega
  · rw [hbyVar]
    cases hvar : c.varId with
    | none => exact h.single
    | some varId =>
        refine h.single_bind fun existing hfound => ?_
        rw [hfree varId hvar] at hfound
        cases hfound
  · intro id other hid
    rw [getElem?_vars, get?_append] at hid
    rw [hbyVar, Index.newest?_bindSome]
    by_cases hnew : id = r.size
    · subst hnew
      rw [if_pos rfl, Option.map_some, Option.some.injEq] at hid
      subst hid
      -- no variable stands for a handle that is not given yet
      have hnone : r.byVar.newest? r.size = none := by
        cases hnewest : r.byVar.newest? r.size with
        | none => rfl
        | some varId => exact absurd (h.inRange _ _ (Index.mem_of_newest? hnewest)) (Nat.lt_irrefl _)
      rw [if_pos rfl, hnone, Option.or_none]
    · rw [if_neg hnew, ← getElem?_vars] at hid
      rw [if_neg (Ne.symm hnew)]
      exact h.recorded id other hid

/-- One more variable of a class, which records it. -/
theorem rebind (h : r.VarsRecorded) (hid : id < r.size)
    (hown : ∀ existing, r.findByVar? varId = some existing → existing = id)
    (hf : ∀ c, (f c).varId = some varId) : (r.rebind id varId f).VarsRecorded := by
  constructor
  · intro other place hmem
    rw [size_rebind]
    rcases List.mem_cons.mp hmem with hnew | hmem
    · cases hnew; exact hid
    · exact h.inRange other place hmem
  · exact h.single_bind hown
  · intro place other hplace
    rw [getElem?_vars, get?_rebind] at hplace
    rw [show (r.rebind id varId f).byVar = r.byVar.bind varId id from rfl, Index.newest?_bind]
    by_cases hid : id = place
    · simp only [if_pos hid, Option.map_map, Option.map_eq_some_iff, Function.comp_apply] at hplace
      obtain ⟨c, -, rfl⟩ := hplace
      rw [if_pos hid, hf]
    · simp only [if_neg hid, Option.map_id_fun', id_eq] at hplace
      rw [if_neg hid]
      rw [← getElem?_vars] at hplace
      exact h.recorded place other hplace

/-- The variable that a class records stands for the class. -/
theorem findByVar?_eq (h : r.VarsRecorded) (hc : r.get? id = some c) (hvar : c.varId = some varId) :
    r.findByVar? varId = some id := by
  have hrecorded : r.vars[id]? = some (some varId) := by
    rw [getElem?_vars, hc, Option.map_some, hvar]
  have hmem := Index.mem_of_newest? (h.recorded id _ hrecorded).symm
  obtain ⟨place, hfound⟩ := Index.exists_find?_of_mem hmem
  obtain rfl : place = id := h.single varId place id (Index.mem_of_find? hfound) hmem
  exact hfound

end VarsRecorded

/-! ## Rebuilt indexes -/

theorem foldl_addToIndexes (entries : List (ClassDef × Nat)) (r : Registry) :
    entries.foldl (fun acc entry => acc.addToIndexes entry.2 entry.1) r
      = { classes := r.classes
          byName := entries.foldl
            (fun index entry => index.bindSome (some entry.1.qualifiedName) entry.2) r.byName
          byVar := entries.foldl (fun index entry => index.bindSome entry.1.varId entry.2) r.byVar
          byDoc := entries.foldl (fun index entry => index.bindSome entry.1.docId entry.2)
            r.byDoc } := by
  induction entries generalizing r with
  | nil => rfl
  | cons entry rest ih => exact ih (r.addToIndexes entry.2 entry.1)

/-- The keys of the elements of a list give the index in which each element is under its key. -/
theorem foldl_bindSome_zipIdx {α : Type} (key : α → Option String) (l : List α) :
    l.zipIdx.foldl (fun index entry => index.bindSome (key entry.1) entry.2) {}
      = Index.ofKeys (l.map key) := by
  unfold Index.ofKeys
  rw [List.zipIdx_map, List.foldl_map]
  rfl

theorem rebuildIndexes_eq (r : Registry) :
    r.rebuildIndexes
      = { classes := r.classes
          byName := Index.ofKeys (r.names.map some)
          byVar := Index.ofKeys r.vars
          byDoc := Index.ofKeys (r.classes.map ClassDef.docId) } := by
  unfold rebuildIndexes names vars
  rw [foldl_addToIndexes, List.map_map]
  simp only [← foldl_bindSome_zipIdx, Function.comp_apply]

/-- What a rebuild leaves of the index of variables: of all variables of a class the newest one.
The registry may have been changed since, as long as its classes record the same variables. -/
theorem VarsRecorded.findByVar?_rebuildIndexes_iff (h : r.VarsRecorded) (hvars : s.vars = r.vars) :
    s.rebuildIndexes.findByVar? varId = some id ↔ r.byVar.newest? id = some varId := by
  have hindex : s.rebuildIndexes.byVar = Index.ofKeys r.vars := by rw [rebuildIndexes_eq, hvars]
  unfold findByVar?
  rw [hindex, Index.find?_ofKeys_eq_some_iff]
  constructor
  · rintro ⟨hid, -⟩
    exact (h.recorded id _ hid).symm
  · intro hnewest
    have hmem := Index.mem_of_newest? hnewest
    have hlt : id < r.vars.length := by
      rw [length_vars]
      exact h.inRange varId id hmem
    refine ⟨?_, fun later hlater hagain => ?_⟩
    · have hid := List.getElem?_eq_getElem hlt
      rw [hid, h.recorded id _ hid, hnewest]
    · -- a later class with the variable is the same class
      have hlaterMem := Index.mem_of_newest? (h.recorded later _ hagain).symm
      have heq := h.single varId id later hmem hlaterMem
      omega

end Registry

end ClassRecovery
