import ClassRecovery.Proofs.Model.Indexes

/-!
# Registries that operations lead to

A registry is only ever changed by its operations. `Registry.after` is the registry that a sequence
of them makes of the empty one; an operation that is refused changes nothing. What every operation
keeps holds of all these registries.

The registry of a list of classes is made by one operation alone. Its list of classes is the given
one exactly when no two of them share a name (`classes_ofList_eq_iff`).
-/

set_option autoImplicit false

namespace ClassRecovery

namespace Registry

variable {r : Registry} {c : ClassDef} {classes : List ClassDef}

/-! ## Registering in place of a class -/

theorem rebuildIndexes_namesIndexed (r : Registry) : r.rebuildIndexes.NamesIndexed := by
  rw [rebuildIndexes_eq]
  rfl

/-- A class with a new name comes to the end. -/
theorem NamesIndexed.upsert_of_fresh (h : r.NamesIndexed) (hfresh : c.qualifiedName ∉ r.names) :
    (r.upsert c).2 = r.append c := by
  unfold upsert
  rw [h.findByName?_eq_none_iff.mpr hfresh]

/-- A class with a name of the registry takes the place of the one that has it. -/
theorem NamesIndexed.names_upsert_of_known (h : r.NamesIndexed)
    (hknown : c.qualifiedName ∈ r.names) : (r.upsert c).2.names = r.names := by
  unfold upsert
  cases hfound : r.findByName? c.qualifiedName with
  | none => exact absurd hknown (h.findByName?_eq_none_iff.mp hfound)
  | some id =>
      obtain ⟨known, hknown, hname⟩ := h.exists_of_findByName? hfound
      have hget? : r.names[id]? = some c.qualifiedName := by rw [getElem?_names, hknown, ← hname]; rfl
      obtain ⟨hlt, hget⟩ := List.getElem?_eq_some_iff.mp hget?
      dsimp only
      rw [rebuildIndexes_eq]
      show (r.classes.set id c).map ClassDef.qualifiedName = r.names
      rw [List.map_set, ← hget]
      exact List.set_getElem_self hlt

theorem NamesIndexed.upsert (h : r.NamesIndexed) (c : ClassDef) : (r.upsert c).2.NamesIndexed := by
  unfold Registry.upsert
  split
  · exact rebuildIndexes_namesIndexed _
  · exact h.append c

theorem NamesIndexed.nodup_upsert (h : r.NamesIndexed) (hnodup : r.names.Nodup) (c : ClassDef) :
    (r.upsert c).2.names.Nodup := by
  by_cases hknown : c.qualifiedName ∈ r.names
  · rw [h.names_upsert_of_known hknown]
    exact hnodup
  · rw [h.upsert_of_fresh hknown, names_append, List.nodup_append_comm]
    exact List.nodup_cons.mpr ⟨hknown, hnodup⟩

/-- After an `upsert` the registry has the new class and the classes of other names. -/
theorem NamesIndexed.mem_classes_upsert_iff (h : r.NamesIndexed) (hnodup : r.names.Nodup)
    {d : ClassDef} :
    d ∈ (r.upsert c).2.classes ↔
      d = c ∨ d ∈ r.classes ∧ d.qualifiedName ≠ c.qualifiedName := by
  unfold Registry.upsert
  cases hfound : r.findByName? c.qualifiedName with
  | none =>
      have hfresh := h.findByName?_eq_none_iff.mp hfound
      have hother (hd : d ∈ r.classes) : d.qualifiedName ≠ c.qualifiedName := fun hname =>
        hfresh (hname ▸ List.mem_map_of_mem hd)
      show d ∈ r.classes ++ [c] ↔ _
      rw [List.mem_append, List.mem_singleton, or_comm]
      exact or_congr_right ⟨fun hd => ⟨hd, hother hd⟩, And.left⟩
  | some id =>
      obtain ⟨known, hknown, hname⟩ := h.exists_of_findByName? hfound
      have hid : r.names[id]? = some c.qualifiedName := by
        rw [getElem?_names, hknown, Option.map_some, hname]
      have hlt : id < r.classes.length := get?_eq_some_lt hknown
      dsimp only
      rw [rebuildIndexes_eq]
      show d ∈ r.classes.set id c ↔ _
      simp only [List.mem_iff_getElem?, List.getElem?_set, if_pos hlt]
      constructor
      · rintro ⟨place, hplace⟩
        split_ifs at hplace with hne
        · exact .inl (Option.some.inj hplace).symm
        · -- names are distinct, so a class at another place has another name
          refine .inr ⟨⟨place, hplace⟩, fun hsame => hne ?_⟩
          have hplace' : r.names[place]? = some c.qualifiedName := by
            rw [getElem?_names, get?, hplace, Option.map_some, hsame]
          exact (List.getElem?_inj (by rwa [length_names]) hnodup).mp (hid.trans hplace'.symm)
      · rintro (rfl | ⟨⟨place, hplace⟩, hother⟩)
        · exact ⟨id, if_pos rfl⟩
        · have hne : id ≠ place := by
            rintro rfl
            rw [show r.classes[id]? = some known from hknown] at hplace
            exact hother (Option.some.inj hplace ▸ hname)
          exact ⟨place, by rw [if_neg hne, hplace]⟩

theorem ofList_concat (classes : List ClassDef) (c : ClassDef) :
    ofList (classes ++ [c]) = ((ofList classes).upsert c).2 := by
  simp only [ofList, List.foldl_append, List.foldl_cons, List.foldl_nil]

theorem ofList_namesIndexed (classes : List ClassDef) : (ofList classes).NamesIndexed := by
  induction classes using List.reverseRecOn with
  | nil => exact .empty
  | append_singleton classes c ih =>
      rw [ofList_concat]
      exact ih.upsert c

theorem nodup_names_ofList (classes : List ClassDef) : (ofList classes).names.Nodup := by
  induction classes using List.reverseRecOn with
  | nil => exact List.nodup_nil
  | append_singleton classes c ih =>
      rw [ofList_concat]
      exact (ofList_namesIndexed classes).nodup_upsert ih c

/-- The registry of a list has of each name the last class. -/
theorem mem_ofList_iff {d : ClassDef} :
    d ∈ (ofList classes).classes ↔
      (classes.reverse.find? fun c => c.qualifiedName == d.qualifiedName) = some d := by
  induction classes using List.reverseRecOn with
  | nil => simp [ofList]
  | append_singleton classes c ih =>
      rw [ofList_concat,
        (ofList_namesIndexed classes).mem_classes_upsert_iff (nodup_names_ofList classes), ih,
        List.reverse_concat]
      -- from the end of the list, the class that is added last comes first
      rw [List.find?_cons]
      cases hname : c.qualifiedName == d.qualifiedName with
      | true => simp [beq_iff_eq.mp hname, eq_comm]
      | false =>
          have hother : d.qualifiedName ≠ c.qualifiedName := (beq_eq_false_iff_ne.mp hname).symm
          have hne : d ≠ c := fun heq => hother (congrArg ClassDef.qualifiedName heq)
          simp only [hne, false_or, ne_eq, hother, not_false_eq_true, and_true]

/-- Among classes of distinct names the one of a name is found. -/
theorem find?_name_eq_some_iff (hnodup : (classes.map ClassDef.qualifiedName).Nodup) {q : String} :
    (classes.find? fun c => c.qualifiedName == q) = some c ↔
      c ∈ classes ∧ c.qualifiedName = q := by
  constructor
  · intro hfound
    exact ⟨List.mem_of_find?_eq_some hfound, by simpa using List.find?_some hfound⟩
  · rintro ⟨hmem, rfl⟩
    cases hother : classes.find? fun d => d.qualifiedName == c.qualifiedName with
    | none => simpa using List.find?_eq_none.mp hother c hmem
    | some other =>
        have hname : other.qualifiedName = c.qualifiedName := by simpa using List.find?_some hother
        rw [List.inj_on_of_nodup_map hnodup (List.mem_of_find?_eq_some hother) hmem hname]

/-- In the registry of a list the last class of a name is found. -/
theorem find?_ofList (q : String) :
    ((ofList classes).classes.find? fun c => c.qualifiedName == q)
      = classes.reverse.find? fun c => c.qualifiedName == q := by
  refine Option.ext fun d => ?_
  rw [find?_name_eq_some_iff (nodup_names_ofList classes), mem_ofList_iff]
  constructor
  · rintro ⟨hlast, rfl⟩
    exact hlast
  · intro hlast
    obtain rfl : d.qualifiedName = q := by simpa using List.find?_some hlast
    exact ⟨hlast, rfl⟩

/-- The registry of a list has no other classes. -/
theorem mem_of_mem_ofList {d : ClassDef} (h : d ∈ (ofList classes).classes) : d ∈ classes :=
  List.mem_reverse.mp (List.mem_of_find?_eq_some (mem_ofList_iff.mp h))

/-- Classes with new and distinct names come to the end, one after the other. -/
theorem foldl_upsert_of_nodup (h : r.NamesIndexed)
    (hnodup : (r.names ++ classes.map ClassDef.qualifiedName).Nodup) :
    classes.foldl (fun r c => (r.upsert c).2) r = classes.foldl append r := by
  induction classes generalizing r with
  | nil => rfl
  | cons c rest ih =>
      have hfresh : c.qualifiedName ∉ r.names := fun hmem =>
        (List.disjoint_of_nodup_append hnodup) hmem List.mem_cons_self
      rw [List.map_cons, List.append_cons] at hnodup
      rw [List.foldl_cons, List.foldl_cons, h.upsert_of_fresh hfresh,
        ih (h.append c) (by rwa [names_append])]

/-- One more class at the end of the list is one more class in the rebuilt indexes. -/
theorem rebuildIndexes_concat (classes : List ClassDef) (c : ClassDef) :
    rebuildIndexes { classes := classes ++ [c] } = (rebuildIndexes { classes := classes }).append c := by
  rw [rebuildIndexes_eq, rebuildIndexes_eq]
  simp only [names, vars, List.map_append, List.map_singleton, Index.ofKeys_append, List.length_map]
  rfl

theorem foldl_append_eq_rebuildIndexes (classes : List ClassDef) :
    classes.foldl append {} = rebuildIndexes { classes := classes } := by
  induction classes using List.reverseRecOn with
  | nil => rfl
  | append_singleton classes c ih =>
      rw [List.foldl_append, ih, rebuildIndexes_concat]
      rfl

/-- Classes of distinct names are registered as they are, under the indexes computed from them. -/
theorem ofList_eq_rebuildIndexes (hnodup : (classes.map ClassDef.qualifiedName).Nodup) :
    ofList classes = rebuildIndexes { classes := classes } :=
  (foldl_upsert_of_nodup .empty hnodup).trans (foldl_append_eq_rebuildIndexes classes)

/-- A list of classes is the one of its registry exactly when no two of them share a name. -/
theorem classes_ofList_eq_iff :
    (ofList classes).classes = classes ↔ (classes.map ClassDef.qualifiedName).Nodup := by
  constructor
  · intro h
    have hnodup := nodup_names_ofList classes
    rwa [names, h] at hnodup
  · intro hnodup
    rw [ofList_eq_rebuildIndexes hnodup, rebuildIndexes_eq]

end Registry

/-! ## Sequences of operations -/

/-- A change of a record that the indexes do not notice. -/
structure RecordChange where
  apply : ClassDef → ClassDef
  keepsIdentity : ClassDef.KeepsIdentity apply
  keepsDocId : ∀ c, (apply c).docId = c.docId

namespace Registry

/-- An operation on a registry, with its arguments. -/
inductive Operation
  | insert (c : ClassDef)
  | upsert (c : ClassDef)
  | bindVar (id : Nat) (varId : String)
  | setDocId (id : Nat) (docId : Option String)
  | rebuildIndexes
  /-- A record is changed in place. -/
  | change (id : Nat) (change : RecordChange)

/-- The registry after an operation. -/
def perform (r : Registry) : Operation → Registry
  | .insert c =>
    match r.insert c with
    | .ok (_, next) => next
    | .error _ => r
  | .upsert c => (r.upsert c).2
  | .bindVar id varId =>
    match r.bindVar id varId with
    | .ok next => next
    | .error _ => r
  | .setDocId id docId => r.setDocId id docId
  | .rebuildIndexes => r.rebuildIndexes
  | .change id change => r.modify id change.apply

/-- The registry after these operations, the first of them on the empty registry. -/
def after (operations : List Operation) : Registry := operations.foldl perform {}

/-- What becomes of a registry at an operation. -/
inductive Performed (r : Registry) : Operation → Registry → Prop
  /-- The operation is refused. -/
  | refused (operation : Operation) : Performed r operation r
  | inserted {c : ClassDef} (hfree : ∀ v, c.varId = some v → r.findByVar? v = none) :
      Performed r (.insert c) (r.append c)
  | added {c : ClassDef} (hfresh : r.findByName? c.qualifiedName = none) :
      Performed r (.upsert c) (r.append c)
  | replaced {c : ClassDef} {id : Nat} (hknown : r.findByName? c.qualifiedName = some id) :
      Performed r (.upsert c) (rebuildIndexes { classes := r.classes.set id c })
  | bound {id : Nat} {varId : String} (hid : id < r.size)
      (hown : ∀ existing, r.findByVar? varId = some existing → existing = id) :
      Performed r (.bindVar id varId) (r.rebind id varId fun c => { c with varId := some varId })
  | documented (id : Nat) (docId : Option String) :
      Performed r (.setDocId id docId) (r.setDocId id docId)
  | rebuilt : Performed r .rebuildIndexes r.rebuildIndexes
  | changed (id : Nat) (change : RecordChange) :
      Performed r (.change id change) (r.modify id change.apply)

theorem perform_performed (r : Registry) (operation : Operation) :
    Performed r operation (r.perform operation) := by
  unfold perform
  cases operation with
  | insert c =>
      dsimp only
      match hinsert : r.insert c with
      | .error _ => exact .refused _
      | .ok (id, next) =>
          obtain ⟨hfree, -, rfl⟩ := insert_eq_ok_iff.mp hinsert
          exact .inserted hfree
  | upsert c =>
      dsimp only
      unfold upsert
      match hfound : r.findByName? c.qualifiedName with
      | some id => exact .replaced hfound
      | none => exact .added hfound
  | bindVar id varId =>
      dsimp only
      match hbind : r.bindVar id varId with
      | .error _ => exact .refused _
      | .ok next =>
          obtain ⟨hid, hown, rfl⟩ := bindVar_eq_ok_iff.mp hbind
          exact .bound hid hown
  | setDocId id docId => exact .documented id docId
  | rebuildIndexes => exact .rebuilt
  | change id change => exact .changed id change

/-- What every operation keeps holds of all registries that operations lead to. -/
theorem after_induction {P : Registry → Prop} (empty : P {})
    (step : ∀ r operation s, Performed r operation s → P r → P s) (operations : List Operation) :
    P (after operations) := by
  induction operations using List.reverseRecOn with
  | nil => exact empty
  | append_singleton operations last ih =>
      unfold after at ih ⊢
      rw [List.foldl_append]
      exact step _ last _ (perform_performed _ last) ih

/-- Every operation keeps the index of names in order. -/
theorem NamesIndexed.performed {r s : Registry} {operation : Operation} (h : r.NamesIndexed)
    (hperformed : Performed r operation s) : s.NamesIndexed := by
  cases hperformed with
  | refused => exact h
  | inserted | added => exact h.append _
  | replaced | rebuilt => exact rebuildIndexes_namesIndexed _
  | @bound id varId hid hown =>
      exact h.rebind (f := fun c => { c with varId := some varId }) (fun _ => rfl) id varId
  | documented id docId => exact h.same (.setDocId r id docId)
  | changed id change => exact h.same (.modify r id change.keepsIdentity)

/-- The index of names is the one computed from the classes, whatever operations lead to them. -/
theorem after_namesIndexed (operations : List Operation) : (after operations).NamesIndexed :=
  after_induction .empty (fun _ _ _ hperformed h => h.performed hperformed) operations

end Registry

end ClassRecovery
