import ClassRecovery.Proofs.Model.Lookups

/-!
# What a history of operations leaves in the indexes

The index of documentation identifiers has one entry for an identifier, however many classes record
it. The entry goes when the class it leads to is given another identifier, and the other classes
that record it are then not found under it (`findByDoc?_of_shared_taken`). A class is found under
its identifier exactly when that has not happened since the identifier was last given to a class
(`findByDoc?_after_iff`).

The index of variables loses nothing as long as no class is replaced and the indexes are not computed
anew. So a variable stands for one class for good, and the record of a class agrees with the index
(`variables_after`).
-/

set_option autoImplicit false

namespace ClassRecovery.Registry

variable {r s : Registry} {operation : Operation} {operations : List Operation} {c : ClassDef}
  {id : Nat} {docId varId : String}

theorem after_concat (operations : List Operation) (last : Operation) :
    after (operations ++ [last]) = (after operations).perform last := by
  unfold after
  rw [List.foldl_append]
  rfl

/-! ## Documentation identifiers -/

/-- The documentation identifiers of the classes. -/
def docs (r : Registry) : List (Option String) := r.classes.map ClassDef.docId

theorem mem_docs_iff {given : Option String} :
    given ∈ r.docs ↔ ∃ id c, r.get? id = some c ∧ c.docId = given := by
  unfold docs
  rw [List.mem_map]
  constructor
  · rintro ⟨c, hc, hdoc⟩
    obtain ⟨id, hid⟩ := List.mem_iff_getElem?.mp hc
    exact ⟨id, c, hid, hdoc⟩
  · rintro ⟨id, c, hid, hdoc⟩
    exact ⟨c, List.mem_of_getElem? hid, hdoc⟩

theorem docs_append (r : Registry) (c : ClassDef) : (r.append c).docs = r.docs ++ [c.docId] :=
  List.map_append

theorem docs_modify {f : ClassDef → ClassDef} (hf : ∀ c, (f c).docId = c.docId) (r : Registry)
    (id : Nat) : (r.modify id f).docs = r.docs :=
  map_modify_of_same hf

/-- The operation gives the identifier to a class, or has the indexes computed anew. -/
def Operation.renews (docId : String) (r : Registry) : Operation → Bool
  | .insert c => (r.insert c).isOk && c.docId == some docId
  | .upsert c => (r.findByName? c.qualifiedName).isSome || c.docId == some docId
  | .setDocId id given => decide (id < r.size) && given == some docId
  | .rebuildIndexes => true
  | .bindVar _ _ | .change _ _ => false

/-- The operation takes the identifier away from the class that it leads to. -/
def Operation.takes (docId : String) (r : Registry) : Operation → Bool
  | .setDocId id given => r.findByDoc? docId == some id && given != some docId
  | .insert _ | .upsert _ | .bindVar _ _ | .rebuildIndexes | .change _ _ => false

/-- The identifier has been taken away from the class that it led to, and since then neither been
given to a class nor looked up anew. -/
def givenUp (docId : String) (operations : List Operation) : Bool :=
  (operations.foldl
    (fun (r, lost) operation =>
      (r.perform operation,
        !operation.renews docId r && (lost || operation.takes docId r)))
    (({} : Registry), false)).2

theorem givenUp_concat (docId : String) (operations : List Operation) (last : Operation) :
    givenUp docId (operations ++ [last])
      = (!last.renews docId (after operations)
          && (givenUp docId operations || last.takes docId (after operations))) := by
  let next (state : Registry × Bool) (operation : Operation) : Registry × Bool :=
    (state.1.perform operation,
      !operation.renews docId state.1 && (state.2 || operation.takes docId state.1))
  have hfirst (operations : List Operation) (state : Registry × Bool) :
      (operations.foldl next state).1 = operations.foldl perform state.1 := by
    induction operations generalizing state with
    | nil => rfl
    | cons operation rest ih => exact ih (next state operation)
  show ((operations ++ [last]).foldl next ({}, false)).2 = _
  rw [List.foldl_append, after, ← hfirst operations ({}, false)]
  rfl

/-- What an operation does to the entry of an identifier. -/
inductive DocEffect (docId : String) (r : Registry) (operation : Operation) (s : Registry) : Prop
  | renewed (renews : operation.renews docId r = true)
      (found : some docId ∈ s.docs → s.findByDoc? docId ≠ none)
  | taken (renews : operation.renews docId r = false) (takes : operation.takes docId r = true)
      (lost : s.findByDoc? docId = none)
  | kept (renews : operation.renews docId r = false) (takes : operation.takes docId r = false)
      (found : s.findByDoc? docId = r.findByDoc? docId)
      (recorded : some docId ∈ s.docs → some docId ∈ r.docs)

namespace DocEffect

/-- The operation leaves the identifiers alone. -/
theorem of_same (renews : operation.renews docId r = false)
    (takes : operation.takes docId r = false) (hdocs : s.docs = r.docs)
    (hindex : s.byDoc = r.byDoc) : DocEffect docId r operation s :=
  .kept renews takes (congrArg (Index.find? · docId) hindex) fun h => hdocs ▸ h

/-- The operation adds a class. -/
theorem of_append (renews : operation.renews docId r = (c.docId == some docId))
    (takes : operation.takes docId r = false) : DocEffect docId r operation (r.append c) := by
  by_cases hdoc : c.docId = some docId
  · refine .renewed (by rw [renews, hdoc, beq_self_eq_true]) fun _ => ?_
    rw [findByDoc?_append, if_pos hdoc.symm]
    exact Option.some_ne_none _
  · refine .kept (renews.trans (beq_false_of_ne hdoc)) takes ?_ fun h => ?_
    · rw [findByDoc?_append, if_neg (Ne.symm hdoc)]
    · rw [docs_append, List.mem_append, List.mem_singleton] at h
      exact h.resolve_right (Ne.symm hdoc)

/-- The operation has the indexes computed anew, which have every identifier that is recorded. -/
theorem of_rebuildIndexes (renews : operation.renews docId r = true) :
    DocEffect docId r operation s.rebuildIndexes := by
  refine .renewed renews fun h hnone => ?_
  unfold findByDoc? at hnone
  rw [rebuildIndexes_eq] at h hnone
  exact Index.find?_ofKeys_eq_none_iff.mp hnone h

theorem setDocId (h : r.DocsRecorded) (docId : String) (id : Nat) (given : Option String) :
    DocEffect docId r (.setDocId id given) (r.setDocId id given) := by
  cases hc : r.get? id with
  | none =>
      have hsize : ¬ id < r.size := by
        intro hlt
        obtain ⟨c, hsome⟩ := exists_get? hlt
        rw [hc] at hsome
        cases hsome
      have hfound : r.findByDoc? docId ≠ some id := by
        intro hfound
        obtain ⟨c, hsome, -⟩ := h docId id hfound
        rw [hc] at hsome
        cases hsome
      have hsame : r.setDocId id given = r := by
        unfold Registry.setDocId
        rw [hc]
      rw [hsame]
      refine .of_same ?_ ?_ rfl rfl
      · rw [Operation.renews, decide_eq_false hsize, Bool.false_and]
      · rw [Operation.takes, beq_false_of_ne hfound, Bool.false_and]
  | some c =>
      have hsize : id < r.size := get?_eq_some_lt hc
      by_cases hgiven : given = some docId
      · refine .renewed ?_ fun _ => ?_
        · rw [Operation.renews, decide_eq_true hsize, hgiven, beq_self_eq_true, Bool.true_and]
        · rw [findByDoc?_setDocId hc, if_pos hgiven.symm]
          exact Option.some_ne_none _
      · have hrenews : Operation.renews docId r (.setDocId id given) = false := by
          rw [Operation.renews, beq_false_of_ne hgiven, Bool.and_false]
        by_cases hfound : r.findByDoc? docId = some id
        · -- the class that is found under the identifier records it
          have hdoc : c.docId = some docId := by
            obtain ⟨d, hd, hdoc⟩ := h docId id hfound
            rw [hc] at hd
            cases hd
            exact hdoc
          refine .taken hrenews ?_ ?_
          · rw [Operation.takes, hfound, beq_self_eq_true, Bool.true_and]
            exact bne_iff_ne.mpr hgiven
          · rw [findByDoc?_setDocId hc, if_neg (Ne.symm hgiven), if_pos ⟨hdoc, hfound⟩]
        · refine .kept hrenews ?_ ?_ fun hrecorded => ?_
          · rw [Operation.takes, beq_false_of_ne hfound, Bool.false_and]
          · rw [findByDoc?_setDocId hc, if_neg (Ne.symm hgiven),
              if_neg fun hentry => hfound hentry.2]
          · -- a class that records the identifier now is not the one that got another
            obtain ⟨place, d, hd, hdoc⟩ := mem_docs_iff.mp hrecorded
            rw [get?_setDocId, Option.map_eq_some_iff] at hd
            obtain ⟨old, hold, rfl⟩ := hd
            split at hdoc
            · exact absurd hdoc hgiven
            · exact mem_docs_iff.mpr ⟨place, old, hold, hdoc⟩

theorem perform (h : r.DocsRecorded) (docId : String) (operation : Operation) :
    DocEffect docId r operation (r.perform operation) := by
  unfold Registry.perform
  cases operation with
  | insert c =>
      dsimp only
      cases hinsert : r.insert c with
      | error refusal => exact .of_same (by rw [Operation.renews, hinsert]; rfl) rfl rfl rfl
      | ok inserted =>
          obtain ⟨place, next⟩ := inserted
          obtain ⟨-, -, rfl⟩ := insert_eq_ok_iff.mp hinsert
          exact of_append (by rw [Operation.renews, hinsert]; exact Bool.true_and _) rfl
  | upsert c =>
      dsimp only
      unfold upsert
      cases hfound : r.findByName? c.qualifiedName with
      | some id => exact of_rebuildIndexes (by rw [Operation.renews, hfound]; rfl)
      | none => exact of_append (by rw [Operation.renews, hfound]; rfl) rfl
  | bindVar id varId =>
      dsimp only
      cases hbind : r.bindVar id varId with
      | error refusal => exact .of_same rfl rfl rfl rfl
      | ok next =>
          obtain ⟨-, -, rfl⟩ := bindVar_eq_ok_iff.mp hbind
          have hdocs : (bindVar.bound id varId r).docs = r.docs :=
            docs_modify (f := fun c => { c with varId := some varId }) (fun _ => rfl) r id
          exact .of_same rfl rfl hdocs rfl
  | setDocId id given => exact setDocId h docId id given
  | rebuildIndexes => exact of_rebuildIndexes rfl
  | change id change => exact .of_same rfl rfl (docs_modify change.keepsDocId r id) rfl

/-- An identifier that is recorded leads nowhere exactly if it is lost. -/
theorem findByDoc?_eq_none_iff {lost : Bool} (h : DocEffect docId r operation s)
    (hlost : some docId ∈ r.docs → (r.findByDoc? docId = none ↔ lost = true))
    (hrecorded : some docId ∈ s.docs) :
    s.findByDoc? docId = none ↔
      (!operation.renews docId r && (lost || operation.takes docId r)) = true := by
  cases h with
  | renewed renews found => simp [renews, found hrecorded]
  | taken renews takes lost => simp [renews, takes, lost]
  | kept renews takes found recorded => simp [renews, takes, found, hlost (recorded hrecorded)]

end DocEffect

theorem after_docsRecorded (operations : List Operation) : (after operations).DocsRecorded :=
  after_induction .empty (fun _ _ _ hperformed h => h.performed hperformed) operations

/-- Of the identifiers that are recorded, those that lead nowhere are the ones given up. -/
theorem findByDoc?_eq_none_iff_givenUp (operations : List Operation)
    (hrecorded : some docId ∈ (after operations).docs) :
    (after operations).findByDoc? docId = none ↔ givenUp docId operations = true := by
  induction operations using List.reverseRecOn with
  | nil => cases hrecorded
  | append_singleton operations last ih =>
      have heffect := DocEffect.perform (after_docsRecorded operations) docId last
      rw [after_concat] at hrecorded ⊢
      rw [givenUp_concat]
      exact heffect.findByDoc?_eq_none_iff ih hrecorded

/-- **Classes under their documentation identifiers.** Whatever operations lead to a registry, the
identifier that a class records leads to a class that records it, and so does a link by the
identifier, exactly when the identifier has not been given up. -/
theorem findByDoc?_after_iff (operations : List Operation)
    (hc : (after operations).get? id = some c) (hdoc : c.docId = some docId) :
    (∃ found d, (after operations).findByDoc? docId = some found ∧
        (after operations).get? found = some d ∧ d.docId = some docId ∧
        (after operations).resolve? docId = some d) ↔
      givenUp docId operations = false := by
  have hrecorded : some docId ∈ (after operations).docs := mem_docs_iff.mpr ⟨id, c, hc, hdoc⟩
  have hnone := findByDoc?_eq_none_iff_givenUp operations hrecorded
  constructor
  · rintro ⟨found, d, hfound, -⟩
    rw [hfound] at hnone
    simpa using hnone
  · intro hkept
    cases hfound : (after operations).findByDoc? docId with
    | none =>
        rw [hnone.mp hfound] at hkept
        cases hkept
    | some found =>
        have hdocs : (after operations).DocsRecorded := after_docsRecorded operations
        obtain ⟨d, hd, hrecords⟩ := hdocs docId found hfound
        refine ⟨found, d, rfl, hd, hrecords, ?_⟩
        rw [resolve?, hfound, Option.some_or, Option.bind_some, hd]

/-- Of two classes that share an identifier the first one is given another, and the second one is
still found under it. -/
theorem findByDoc?_after_of_shared :
    let operations : List Operation :=
      [.insert { space := "N", name := "A", docId := some "d" },
       .insert { space := "N", name := "B", docId := some "d" }, .setDocId 0 (some "e")]
    ∃ c, (after operations).get? 1 = some c ∧ c.docId = some "d" ∧
      ∃ found d, (after operations).findByDoc? "d" = some found ∧
        (after operations).get? found = some d ∧ d.docId = some "d" ∧
        (after operations).resolve? "d" = some d := by
  intro operations
  have hc : (after operations).get? 1 = some { space := "N", name := "B", docId := some "d" } := by
    decide +kernel
  exact ⟨_, hc, rfl, (findByDoc?_after_iff operations hc rfl).mpr (by decide +kernel)⟩

/-- Of two classes that share an identifier the second one, which it leads to, loses it, and the
first one is found no more. -/
theorem findByDoc?_of_shared_taken :
    let operations : List Operation :=
      [.insert { space := "N", name := "A", docId := some "d" },
       .insert { space := "N", name := "B", docId := some "d" }, .setDocId 1 none]
    (∃ c, (after operations).get? 0 = some c ∧ c.docId = some "d") ∧
      (after operations).findByDoc? "d" = none := by
  intro operations
  have hc : (after operations).get? 0 = some { space := "N", name := "A", docId := some "d" } := by
    decide +kernel
  exact ⟨⟨_, hc, rfl⟩, by decide +kernel⟩

/-! ## Variables -/

/-- The operation neither replaces a class nor has the indexes computed anew. -/
def Operation.keepsVars : Operation → Bool
  | .upsert _ | .rebuildIndexes => false
  | .insert _ | .bindVar _ _ | .setDocId _ _ | .change _ _ => true

theorem VarsRecorded.performed (h : r.VarsRecorded) (keeps : operation.keepsVars = true)
    (hperformed : Performed r operation s) : s.VarsRecorded := by
  cases hperformed with
  | refused => exact h
  | inserted hfree => exact h.append hfree
  | added | replaced | rebuilt => cases keeps
  | bound hid hown => exact h.rebind hid hown fun _ => rfl
  | documented id docId => exact h.same (.setDocId r id docId)
  | changed id change => exact h.same (.modify r id change.keepsIdentity)

/-- A variable that stands for a class goes on to stand for it. -/
theorem findByVar?_of_performed (keeps : operation.keepsVars = true)
    (hperformed : Performed r operation s) (hfound : r.findByVar? varId = some id) :
    s.findByVar? varId = some id := by
  cases hperformed with
  | refused => exact hfound
  | @inserted c hfree =>
      rw [findByVar?_append]
      split_ifs with hvar
      · -- the variable of the new class is free
        rw [hfree varId hvar.symm] at hfound
        cases hfound
      · exact hfound
  | added | replaced | rebuilt => cases keeps
  | @bound place newVar hid hown =>
      rw [findByVar?_rebind]
      split_ifs with hvar
      · subst hvar
        rw [hown id hfound]
      · exact hfound
  | documented place docId =>
      have hsame : (r.setDocId place docId).byVar = r.byVar := (SameIdentities.setDocId r _ _).byVar
      unfold findByVar?
      rw [hsame]
      exact hfound
  | changed place change => exact hfound

theorem after_varsRecorded (keeps : ∀ operation ∈ operations, operation.keepsVars = true) :
    (after operations).VarsRecorded := by
  induction operations using List.reverseRecOn with
  | nil => exact .empty
  | append_singleton operations last ih =>
      rw [List.forall_mem_append, List.forall_mem_singleton] at keeps
      rw [after_concat]
      exact (ih keeps.1).performed keeps.2 (perform_performed _ last)

theorem findByVar?_after_append {later : List Operation}
    (keeps : ∀ operation ∈ later, operation.keepsVars = true)
    (hfound : (after operations).findByVar? varId = some id) :
    (after (operations ++ later)).findByVar? varId = some id := by
  induction later using List.reverseRecOn with
  | nil => rwa [List.append_nil]
  | append_singleton later last ih =>
      rw [List.forall_mem_append, List.forall_mem_singleton] at keeps
      rw [← List.append_assoc, after_concat]
      exact findByVar?_of_performed keeps.2 (perform_performed _ last) (ih keeps.1)

/-- A class is refused exactly when its variable stands for a class already. -/
theorem insert_eq_error_iff :
    (∃ refusal, r.insert c = .error refusal) ↔
      ∃ varId id, c.varId = some varId ∧ r.findByVar? varId = some id := by
  unfold insert
  cases hvar : c.varId with
  | none => simp
  | some varId => cases hfound : r.findByVar? varId <;> simp [hfound]

/-- A binding is refused exactly when there is no such class or the variable stands for another
one. -/
theorem bindVar_eq_error_iff :
    (∃ refusal, r.bindVar id varId = .error refusal) ↔
      r.size ≤ id ∨ ∃ other, r.findByVar? varId = some other ∧ other ≠ id := by
  unfold bindVar
  by_cases hsize : r.size ≤ id
  · simp [hsize]
  · cases hfound : r.findByVar? varId with
    | none => simp [hsize]
    | some other =>
        by_cases hown : other = id
        · simp [hsize, hown]
        · simp [hsize, hown]

/-- Variables identify classes, and an operation that would change that is refused. -/
structure VarsSound (r : Registry) : Prop where
  /-- The variable that a class records stands for the class. -/
  recorded : ∀ id c varId, r.get? id = some c → c.varId = some varId →
    r.findByVar? varId = some id
  /-- No two classes record one variable. -/
  single : ∀ id place c d varId, r.get? id = some c → r.get? place = some d →
    c.varId = some varId → d.varId = some varId → id = place
  /-- A variable stands for a class of the registry. -/
  inRange : ∀ varId id, r.findByVar? varId = some id → id < r.size
  /-- A class is refused exactly when its variable stands for a class already. -/
  insertRefused : ∀ c, (∃ refusal, r.insert c = .error refusal) ↔
    ∃ varId id, c.varId = some varId ∧ r.findByVar? varId = some id
  /-- A binding is refused exactly when there is no such class or the variable stands for another
  one. -/
  bindRefused : ∀ id varId, (∃ refusal, r.bindVar id varId = .error refusal) ↔
    r.size ≤ id ∨ ∃ other, r.findByVar? varId = some other ∧ other ≠ id

theorem VarsRecorded.sound (h : r.VarsRecorded) : r.VarsSound where
  recorded := fun _ _ _ => h.findByVar?_eq
  single := by
    intro id place c d varId hc hd hvar hvar'
    have hid := h.findByVar?_eq hc hvar
    rw [h.findByVar?_eq hd hvar'] at hid
    exact (Option.some.inj hid).symm
  inRange := fun varId id hfound => h.inRange varId id (Index.mem_of_find? hfound)
  insertRefused := fun _ => insert_eq_error_iff
  bindRefused := fun _ _ => bindVar_eq_error_iff

/-- **Variables identify classes.** After any operations that replace no class and have no indexes
computed anew, refused ones among them, variables identify classes, and whatever such operations
follow, a variable that stands for a class goes on to stand for it. -/
theorem variables_after {later : List Operation}
    (keeps : ∀ operation ∈ operations ++ later, operation.keepsVars = true) :
    (after operations).VarsSound ∧
      ∀ varId id, (after operations).findByVar? varId = some id →
        (after (operations ++ later)).findByVar? varId = some id := by
  rw [List.forall_mem_append] at keeps
  exact ⟨(after_varsRecorded keeps.1).sound, fun _ _ => findByVar?_after_append keeps.2⟩

/-- A class with two variables, of which another class is refused the first one, keeps both when a
third one is bound to it. -/
theorem variables_after_of_two_bindings :
    let operations : List Operation :=
      [.insert { space := "N", name := "A", varId := some "$A" }, .bindVar 0 "$A1",
       .insert { space := "N", name := "B", varId := some "$A" }, .setDocId 0 (some "d")]
    let later : List Operation := [.bindVar 0 "$A2", .bindVar 1 "$A"]
    (∀ operation ∈ operations ++ later, operation.keepsVars = true) ∧
      (after operations).VarsSound ∧
      (after (operations ++ later)).findByVar? "$A" = some 0 := by
  intro operations later
  have keeps : ∀ operation ∈ operations ++ later, operation.keepsVars = true := by
    simp [operations, later, Operation.keepsVars]
  obtain ⟨hsound, hstays⟩ := variables_after keeps
  exact ⟨keeps, hsound, hstays "$A" 0 (by decide +kernel)⟩

end ClassRecovery.Registry
