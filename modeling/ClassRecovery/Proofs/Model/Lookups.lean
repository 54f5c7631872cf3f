import ClassRecovery.Proofs.Model.Operations

/-!
# What the indexes of a registry find

Whatever operations lead to a registry, its indexes find no class that is not there. What is found
under a name is the last class of that name, and what is found under a documentation identifier is
a class that records it (`after_indexesSound`).

The index of names is computed from the classes at all times. The index of documentation
identifiers is not: an identifier that two classes record stands for one of them, and is lost when
that one gives it up. So the invariant is only that no entry is stale (`DocsRecorded`).
-/

set_option autoImplicit false

namespace ClassRecovery

theorem Index.find?_unbind (index : Index) (key other : String) :
    (index.unbind key).find? other = if other = key then none else index.find? other := by
  obtain ⟨entries⟩ := index
  unfold unbind find?
  dsimp only
  induction entries with
  | nil => simp
  | cons entry rest ih =>
      obtain ⟨name, id⟩ := entry
      by_cases hname : name = key
      · -- the entry goes, and it is not the one of another key
        subst hname
        rw [List.filter_cons_of_neg (by simp), ih, List.lookup_cons]
        by_cases hother : other = name
        · rw [if_pos hother, if_pos hother]
        · rw [if_neg hother, if_neg hother, beq_false_of_ne hother]
      · rw [List.filter_cons_of_pos (by simpa using hname), List.lookup_cons, List.lookup_cons, ih]
        by_cases hother : other = name
        · simp [hother, hname]
        · rw [beq_false_of_ne hother]

namespace Registry

variable {r s : Registry} {operation : Operation} {c : ClassDef} {f : ClassDef → ClassDef}
  {id place : Nat}

/-! ## Documentation identifiers -/

theorem findByDoc?_append (r : Registry) (c : ClassDef) (docId : String) :
    (r.append c).findByDoc? docId = if some docId = c.docId then some r.size else r.findByDoc? docId :=
  Index.find?_bindSome r.byDoc c.docId docId r.size

/-- What is found when the identifier of a class has been set: the class under the new one, nothing
under the old one if this was its entry, and else what was found before. -/
theorem findByDoc?_setDocId (hc : r.get? id = some c) (docId : Option String) (other : String) :
    (r.setDocId id docId).findByDoc? other
      = if some other = docId then some id
        else if c.docId = some other ∧ r.findByDoc? other = some id then none
        else r.findByDoc? other := by
  unfold setDocId findByDoc?
  rw [hc]
  dsimp only
  rw [Index.find?_bindSome]
  split
  · rfl
  · cases hold : c.docId with
    | none => simp
    | some old =>
        dsimp only
        by_cases hentry : r.byDoc.find? old = some id
        · rw [if_pos hentry, Index.find?_unbind]
          by_cases hother : other = old
          · subst hother
            simp [hentry]
          · simp [hother, Ne.symm hother]
        · rw [if_neg hentry]
          have hnot : ¬ (some old = some other ∧ r.byDoc.find? other = some id) := by
            rintro ⟨heq, hfound⟩
            cases heq
            exact hentry hfound
          rw [if_neg hnot]

theorem get?_setDocId (r : Registry) (id : Nat) (docId : Option String) (place : Nat) :
    (r.setDocId id docId).get? place
      = (r.get? place).map fun c => if id = place then { c with docId := docId } else c := by
  unfold setDocId
  cases hc : r.get? id with
  | some c => exact get?_modify r id place _
  | none =>
      by_cases hplace : id = place
      · subst hplace
        simp [hc]
      · simp [hplace]

/-- What is found under a documentation identifier is a class that records it. -/
def DocsRecorded (r : Registry) : Prop :=
  ∀ docId id, r.findByDoc? docId = some id → ∃ c, r.get? id = some c ∧ c.docId = some docId

namespace DocsRecorded

theorem empty : DocsRecorded {} := fun _ _ hfound => by cases hfound

theorem modify (h : r.DocsRecorded) (hf : ∀ c, (f c).docId = c.docId) (id : Nat) :
    (r.modify id f).DocsRecorded := by
  intro docId place hfound
  obtain ⟨c, hc, hdoc⟩ := h docId place hfound
  refine ⟨if id = place then f c else c, by rw [get?_modify, hc]; rfl, ?_⟩
  split
  · rw [hf, hdoc]
  · exact hdoc

theorem append (h : r.DocsRecorded) (c : ClassDef) : (r.append c).DocsRecorded := by
  intro docId id hfound
  rw [findByDoc?_append] at hfound
  split_ifs at hfound with hdoc
  · cases hfound
    exact ⟨c, by rw [get?_append, if_pos rfl], hdoc.symm⟩
  · obtain ⟨d, hd, hdoc⟩ := h docId id hfound
    have hlt := get?_eq_some_lt hd
    exact ⟨d, by rw [get?_append, if_neg (by omega), hd], hdoc⟩

theorem setDocId (h : r.DocsRecorded) (id : Nat) (docId : Option String) :
    (r.setDocId id docId).DocsRecorded := by
  cases hc : r.get? id with
  | none =>
      unfold Registry.setDocId
      rw [hc]
      exact h
  | some c =>
      intro other place hfound
      rw [findByDoc?_setDocId hc] at hfound
      rw [get?_setDocId]
      split_ifs at hfound with hnew hkept
      · cases hfound
        exact ⟨{ c with docId := docId }, by rw [hc, Option.map_some, if_pos rfl], hnew.symm⟩
      · obtain ⟨d, hd, hdoc⟩ := h other place hfound
        -- an entry of the class itself would be that of its old identifier
        have hne : id ≠ place := by
          rintro rfl
          rw [hc] at hd
          cases hd
          exact hkept ⟨hdoc, hfound⟩
        exact ⟨d, by rw [hd, Option.map_some, if_neg hne], hdoc⟩

theorem rebuildIndexes (r : Registry) : r.rebuildIndexes.DocsRecorded := by
  intro docId id hfound
  rw [rebuildIndexes_eq] at hfound ⊢
  have hdoc : (r.classes.map ClassDef.docId)[id]? = some (some docId) :=
    (Index.find?_ofKeys_eq_some_iff.mp hfound).1
  rw [List.getElem?_map, Option.map_eq_some_iff] at hdoc
  exact hdoc

/-- Every operation leaves no stale identifier behind. -/
theorem performed (h : r.DocsRecorded) (hperformed : Performed r operation s) : s.DocsRecorded := by
  cases hperformed with
  | refused => exact h
  | inserted | added => exact h.append _
  | replaced | rebuilt => exact rebuildIndexes _
  | @bound id varId hid hown =>
      exact h.modify (f := fun c => { c with varId := some varId }) (fun _ => rfl) id
  | documented id docId => exact h.setDocId id docId
  | changed id change => exact h.modify change.keepsDocId id

end DocsRecorded

/-! ## Variables -/

/-- What is found under a variable is a class of the registry. -/
def VarsInRange (r : Registry) : Prop := ∀ varId id, r.findByVar? varId = some id → id < r.size

namespace VarsInRange

theorem empty : VarsInRange {} := fun _ _ hfound => by cases hfound

theorem same (h : r.VarsInRange) (hsame : r.SameIdentities s) : s.VarsInRange := by
  have hsize : s.size = r.size := by rw [← length_vars, hsame.vars, length_vars]
  unfold VarsInRange findByVar?
  rw [hsame.byVar, hsize]
  exact h

theorem append (h : r.VarsInRange) (c : ClassDef) : (r.append c).VarsInRange := by
  intro varId id hfound
  rw [findByVar?_append] at hfound
  rw [size_append]
  split at hfound
  · cases hfound
    omega
  · have hlt := h varId id hfound
    omega

theorem rebind (h : r.VarsInRange) (hid : id < r.size) (varId : String)
    (f : ClassDef → ClassDef) : (r.rebind id varId f).VarsInRange := by
  intro other place hfound
  rw [findByVar?_rebind] at hfound
  rw [size_rebind]
  split at hfound
  · cases hfound
    exact hid
  · exact h other place hfound

theorem rebuildIndexes (r : Registry) : r.rebuildIndexes.VarsInRange := by
  intro varId id hfound
  rw [rebuildIndexes_eq] at hfound ⊢
  have hvar := (Index.find?_ofKeys_eq_some_iff.mp hfound).1
  have hlt := (List.getElem?_eq_some_iff.mp hvar).1
  rwa [length_vars] at hlt

/-- Every operation leaves the variables in range. -/
theorem performed (h : r.VarsInRange) (hperformed : Performed r operation s) : s.VarsInRange := by
  cases hperformed with
  | refused => exact h
  | inserted | added => exact h.append _
  | replaced | rebuilt => exact rebuildIndexes _
  | bound hid hown => exact h.rebind hid _ _
  | documented id docId => exact h.same (.setDocId r id docId)
  | changed id change => exact h.same (.modify r id change.keepsIdentity)

end VarsInRange

/-! ## Names -/

/-- What is found under a name is the last class of that name. -/
theorem NamesIndexed.findByName?_eq_some_iff (h : r.NamesIndexed) {q : String} :
    r.findByName? q = some id ↔
      (∃ c, r.get? id = some c ∧ c.qualifiedName = q) ∧
        ∀ later c, id < later → r.get? later = some c → c.qualifiedName ≠ q := by
  have hname (place : Nat) :
      (r.names.map some)[place]? = some (some q) ↔
        ∃ c, r.get? place = some c ∧ c.qualifiedName = q := by
    rw [List.getElem?_map, getElem?_names, Option.map_map, Option.map_eq_some_iff]
    simp only [Function.comp_apply, Option.some.injEq]
  unfold findByName?
  rw [h, Index.find?_ofKeys_eq_some_iff, hname]
  refine and_congr_right fun _ => forall_congr' fun later => ?_
  rw [ne_eq, hname]
  constructor
  · intro hnone c hlater hc hq
    exact hnone hlater ⟨c, hc, hq⟩
  · rintro hnone hlater ⟨c, hc, hq⟩
    exact hnone c hlater hc hq

/-- Nothing is found under a name that no class has. -/
theorem NamesIndexed.findByName?_eq_none_iff_forall (h : r.NamesIndexed) {q : String} :
    r.findByName? q = none ↔ ∀ id c, r.get? id = some c → c.qualifiedName ≠ q := by
  rw [h.findByName?_eq_none_iff, names, List.mem_map]
  constructor
  · intro hnone id c hc hq
    exact hnone ⟨c, List.mem_of_getElem? hc, hq⟩
  · rintro hnone ⟨c, hc, hq⟩
    obtain ⟨id, hid⟩ := List.mem_iff_getElem?.mp hc
    exact hnone id c hid hq

/-! ## All indexes -/

/-- The indexes find classes of the registry only, and those that they are asked for. -/
structure IndexesSound (r : Registry) : Prop where
  /-- No handle that an index gives is out of range. -/
  inRange : ∀ key id,
    r.byName.find? key = some id ∨ r.byVar.find? key = some id ∨ r.byDoc.find? key = some id →
      id < r.size
  /-- What is found under a name is the last class of that name. -/
  lastOfName : ∀ q id, r.findByName? q = some id ↔
    (∃ c, r.get? id = some c ∧ c.qualifiedName = q) ∧
      ∀ later c, id < later → r.get? later = some c → c.qualifiedName ≠ q
  /-- Nothing is found under a name exactly when no class has it. -/
  noneOfName : ∀ q, r.findByName? q = none ↔ ∀ id c, r.get? id = some c → c.qualifiedName ≠ q
  /-- What is found under a documentation identifier is a class that records it. -/
  ofDocId : ∀ docId id, r.findByDoc? docId = some id →
    ∃ c, r.get? id = some c ∧ c.docId = some docId

/-- **Sound indexes.** Whatever operations lead to a registry, with any arguments and whether or not
they are refused, its indexes are sound. -/
theorem after_indexesSound (operations : List Operation) : (after operations).IndexesSound := by
  have hnames : (after operations).NamesIndexed := after_namesIndexed operations
  have hdocs : (after operations).DocsRecorded :=
    after_induction .empty (fun _ _ _ hperformed h => h.performed hperformed) operations
  have hvars : (after operations).VarsInRange :=
    after_induction .empty (fun _ _ _ hperformed h => h.performed hperformed) operations
  refine ⟨fun key id hfound => ?_, fun q id => hnames.findByName?_eq_some_iff,
    fun q => hnames.findByName?_eq_none_iff_forall, hdocs⟩
  rcases hfound with hname | hvar | hdoc
  · obtain ⟨c, hc, -⟩ := hnames.exists_of_findByName? hname
    exact get?_eq_some_lt hc
  · exact hvars key id hvar
  · obtain ⟨c, hc, -⟩ := hdocs key id hdoc
    exact get?_eq_some_lt hc

end Registry

end ClassRecovery
