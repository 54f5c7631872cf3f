import ClassRecovery.Proofs.Dump.Coherence

/-!
# What a run tells of the kind of a class

The kind of a class is decided by marks and by whether it has a constructor. A run sets the mark of
an enumeration and that of an interface, each with one bulk call on a variable of the class, and
nothing else changes them: a class has a mark exactly if such a call has been read while the variable
stood for it (`mark_of_run`). A class is registered by its first constructor, which stays its first
method (`Boundary.firstConstructor`).
-/

set_option autoImplicit false

namespace ClassRecovery.Dump

/-! ## Marks -/

/-- The marks that decide the kind of a class. -/
inductive Mark
  | enum
  | interface
  | abstract
  deriving DecidableEq, Repr

namespace Mark

/-- The mark of a class. -/
def of (c : ClassDef) : Mark → Option Bool
  | .enum => c.isEnum
  | .interface => c.isInterface
  | .abstract => c.isAbstract

/-- The variable of the bulk call that sets the mark. No line says that a class is abstract. -/
def varId? : Mark → LineShape → Option String
  | .enum, .enumInline varId _ _ => some varId
  | .interface, .interfaceInline varId _ _ => some varId
  | _, _ => none

/-- The bulk call sets the mark. -/
def isSetBy : Mark → BulkChange → Bool
  | .enum, .enumMembers _ _ => true
  | .interface, .interfaceMembers _ _ => true
  | _, _ => false

end Mark

/-- The line sets the mark of the class at this handle. -/
def Visit.sets (mark : Mark) (id : Nat) (v : Visit) : Bool :=
  (v.shape.bind mark.varId?).bind v.state.registry.findByVar? == some id

/-- The mark of the class at this handle, if there is one. -/
def markAt (mark : Mark) (r : Registry) (id : Nat) : Option Bool := (r.get? id).bind mark.of

variable {cleaner : Cleaner} {ignore : IgnoreList} {st next final : State} {action : Action}
  {lines rest : List String} {line : String} {index read : Nat} {mark : Mark} {r : Registry}

/-! ## Changes of a class -/

theorem of_constructed (mark : Mark) (c : ClassDef) (varId params : String) (body : List String) :
    mark.of (constructed cleaner c varId params body) = mark.of c := by
  cases mark <;> rfl

theorem of_addStaticMethod (mark : Mark) (member : String) (parts : FunctionParts) (c : ClassDef) :
    mark.of (addStaticMethod ignore cleaner member parts c) = mark.of c := by
  unfold addStaticMethod
  split
  · rfl
  · cases mark <;> rfl

theorem of_addProperty (mark : Mark) (property : Property) (c : ClassDef) :
    mark.of (addProperty property c) = mark.of c := by
  cases mark <;> rfl

/-- A bulk call sets its own mark and leaves the others. -/
theorem of_bulkChange (mark : Mark) (bulk : BulkChange) (c : ClassDef) :
    mark.of (bulk.apply ignore cleaner c)
      = if mark.isSetBy bulk then some true else mark.of c := by
  cases bulk with
  | classMembers members trailer => cases trailer <;> cases mark <;> rfl
  | interfaceMembers | enumMembers | arity => cases mark <;> rfl

/-! ## Changes of a registry -/

theorem markAt_modify {f : ClassDef → ClassDef} (hf : ∀ c, mark.of (f c) = mark.of c)
    (place id : Nat) : markAt mark (r.modify place f) id = markAt mark r id := by
  unfold markAt
  rw [Registry.get?_modify, Option.bind_map]
  congr 1
  funext c
  simp only [Function.comp_apply]
  split
  · exact hf c
  · rfl

theorem markAt_declareAll (lines : List String) (id : Nat) :
    markAt mark (lines.foldl declare r) id = markAt mark r id := by
  induction lines generalizing r with
  | nil => rfl
  | cons line rest ih =>
      rw [List.foldl_cons, ih]
      unfold declare
      split
      · exact markAt_modify (of_addProperty mark _) _ id
      · rfl

theorem markAt_modifyCurrent {f : ClassDef → ClassDef} (hf : ∀ c, mark.of (f c) = mark.of c)
    (id : Nat) : markAt mark (st.modifyCurrent f).registry id = markAt mark st.registry id := by
  unfold State.modifyCurrent
  split
  · rfl
  · rfl
  · rfl
  · exact markAt_modify hf _ id

/-! ## Constructors -/

/-- A class that is registered has just been named. -/
theorem State.Settled.declared_of_kept (h : st.Settled ignore) {c : ClassDef}
    (apart : st.KeepsApart c) (hkept : st.ignore.contains c.qualifiedName = false) :
    c = { space := c.space, name := c.name } := by
  rcases apart with hcurrent | hcurrent
  · exact h.current _ hcurrent
  · -- a class that is set apart is ignored
    obtain ⟨hignored, -⟩ := h.current _ hcurrent
    rw [hkept] at hignored
    cases hignored

theorem markAt_constructs {varId params : String} {body : List String} (h : st.Settled ignore)
    (hconstructs : Constructs cleaner varId params body st next) (id : Nat) :
    markAt mark next.registry id = markAt mark st.registry id := by
  cases hconstructs with
  | nothing | detached => rfl
  | @registered c apart hkept _ =>
      unfold markAt
      rw [Registry.get?_append]
      split_ifs with hid
      · have hnone : st.registry.get? id = none :=
          List.getElem?_eq_none (Nat.le_of_eq hid.symm)
        -- a class that has just been named has no marks
        rw [hnone, Option.bind_some, of_constructed, h.declared_of_kept apart hkept]
        cases mark <;> rfl
      · rfl
  | extended => exact markAt_modify (fun c => of_constructed mark c varId params body) _ id

/-! ## Actions -/

/-- An action that sets no mark leaves all marks as they are. -/
theorem markAt_perform_of_not_set (h : st.Settled ignore)
    (hperform : perform cleaner st action = .ok next)
    (hset : ∀ varId bulk, action = .bulk varId (.ok bulk) → mark.isSetBy bulk = false) (id : Nat) :
    markAt mark next.registry id = markAt mark st.registry id := by
  cases action with
  | nothing | block | assembly | separator | className => cases hperform; rfl
  | assignment line target value =>
      cases hperform
      unfold addGlobalAssignment
      split <;> rfl
  | constructor varId params body =>
      exact markAt_constructs h (performConstructor_constructs hperform) id
  | staticMethod member parts =>
      cases hperform
      exact markAt_modifyCurrent (of_addStaticMethod mark member parts) id
  | staticProperty member value =>
      cases hperform
      refine markAt_modifyCurrent (fun c => ?_) id
      split
      · rfl
      · exact of_addProperty mark _ c
  | bulk varId change =>
      rcases perform_bulk_eq_ok_iff.mp hperform with ⟨-, rfl⟩ | ⟨place, bulk, -, rfl, rfl⟩
      · rfl
      · refine markAt_modify (fun c => ?_) place id
        rw [of_bulkChange, hset varId bulk rfl]
        rfl
  | initializer lines =>
      rw [perform_initializer_eq] at hperform
      cases hperform
      exact markAt_declareAll lines id

/-- A bulk call that sets a mark sets it for the class that its variable stands for. -/
theorem markAt_perform_bulk {varId : String} {change : Except Error BulkChange}
    (hrecorded : st.registry.VarsRecorded)
    (hperform : perform cleaner st (.bulk varId change) = .ok next)
    (hset : ∀ bulk, change = .ok bulk → mark.isSetBy bulk = true) (id : Nat) :
    markAt mark next.registry id
      = if st.registry.findByVar? varId = some id then some true
        else markAt mark st.registry id := by
  rcases perform_bulk_eq_ok_iff.mp hperform with ⟨hnone, rfl⟩ | ⟨place, bulk, hfound, rfl, rfl⟩
  · rw [hnone, if_neg (by simp)]
  · -- what a variable stands for is in the registry, so there is a record to mark
    have hlt := hrecorded.inRange varId place (Index.mem_of_find? hfound)
    obtain ⟨c, hc⟩ := Registry.exists_get? hlt
    unfold markAt
    rw [Registry.get?_modify, hfound]
    by_cases hid : place = id
    · subst hid
      rw [hc, Option.map_some, Option.bind_some, if_pos rfl, if_pos rfl, of_bulkChange,
        hset bulk rfl, if_pos rfl]
    · simp [hid]

/-! ## Lines and runs -/

/-- A line that sets a mark is read as a bulk call that does. -/
theorem exists_bulk_of_varId? {shape : LineShape} {varId : String}
    (h : actionOf index line rest shape = .ok (action, read))
    (hmark : mark.varId? shape = some varId) :
    ∃ change, action = .bulk varId change ∧
      ∀ bulk, change = .ok bulk → mark.isSetBy bulk = true := by
  unfold Mark.varId? at hmark
  split at hmark
  · cases hmark
    cases h
    refine ⟨_, rfl, fun bulk hbulk => ?_⟩
    obtain ⟨members, -, rfl⟩ := map_eq_ok_iff.mp hbulk
    rfl
  · cases hmark
    cases h
    refine ⟨_, rfl, fun bulk hbulk => ?_⟩
    obtain ⟨members, -, hbulk⟩ := bind_eq_ok_iff.mp hbulk
    obtain ⟨bases, -, hbulk⟩ := bind_eq_ok_iff.mp hbulk
    cases hbulk
    rfl
  · cases hmark

/-- A bulk call that sets a mark has been read of a line that does. -/
theorem varId?_of_openedBy {shape : LineShape} {varId : String} {bulk : BulkChange}
    (h : bulk.OpenedBy shape varId) (hset : mark.isSetBy bulk = true) :
    mark.varId? shape = some varId := by
  unfold Mark.isSetBy at hset
  split at hset
  · obtain ⟨members, rfl⟩ := h
    rfl
  · obtain ⟨members, trailer, rfl⟩ := h
    rfl
  · cases hset

/-- What a step does to a mark. -/
theorem markAt_step (h : st.Settled ignore) (hrecorded : st.registry.VarsRecorded)
    (hstep : step cleaner st index line rest = .ok (next, read)) (id : Nat) :
    markAt mark next.registry id
      = if Visit.sets mark id ⟨st, index, line, rest⟩ then some true
        else markAt mark st.registry id := by
  obtain ⟨action, hread, hperform⟩ := (step_eq_ok_iff ..).mp hstep
  obtain ⟨shape, hshape, haction⟩ := exists_shape_of_readAction hread
  unfold Visit.sets Visit.shape
  dsimp only
  rw [hshape, Option.bind_some]
  cases hmark : mark.varId? shape with
  | some varId =>
      obtain ⟨change, rfl, hset⟩ := exists_bulk_of_varId? haction hmark
      rw [markAt_perform_bulk hrecorded hperform hset, Option.bind_some]
      simp only [beq_iff_eq]
  | none =>
      -- a bulk call that sets the mark would have been opened by a line that does
      rw [Option.bind_none, if_neg (by simp)]
      refine markAt_perform_of_not_set h hperform (fun varId bulk hbulk => ?_) id
      subst hbulk
      cases hset : mark.isSetBy bulk with
      | false => rfl
      | true =>
          rw [varId?_of_openedBy (openedBy_of_actionOf haction bulk rfl) hset] at hmark
          cases hmark

theorem Visit.sets_abstract (v : Visit) (id : Nat) : v.sets .abstract id = false := by
  have hnone (shape : LineShape) : Mark.varId? .abstract shape = none := by cases shape <;> rfl
  unfold Visit.sets
  cases v.shape with
  | none => rfl
  | some shape =>
      rw [Option.bind_some, hnone]
      rfl

theorem markAt_of_run (hrun : run cleaner ignore lines = .ok final) (mark : Mark) (id : Nat) :
    markAt mark final.registry id
      = if (visits cleaner ignore lines).any (Visit.sets mark id) then some true else none := by
  -- from the end of the dump: the marks of a later state and those set on the way to it
  refine Boundary.start.induction_of_runFrom
    (P := fun index st => markAt mark final.registry id
      = if (visitsFrom cleaner 0 index st (lines.drop index)).any (Visit.sets mark id) then some true
        else markAt mark st.registry id)
    (fun _ => ?last) (fun {index st line rest next read} h hline hstep hnext => ?back) hrun
  case last =>
    rw [List.drop_length]
    rfl
  case back =>
    rw [hnext, markAt_step h.settled h.indexes.2 hstep, visitsFrom_of_step hline hstep,
      List.any_cons]
    cases Visit.sets mark id ⟨st, index, line, rest⟩ with
    | true => rw [if_pos rfl, Bool.true_or, if_pos rfl, ite_self]
    | false => rw [if_neg Bool.false_ne_true, Bool.false_or]

/-- **Marks at the end of a run.** A class has a mark exactly if a line of the dump sets it, on a
variable that stands for the class when the line is read. -/
theorem mark_of_run (hrun : run cleaner ignore lines = .ok final) (mark : Mark) {id : Nat}
    {c : ClassDef} (hc : final.registry.get? id = some c) :
    mark.of c
      = if (visits cleaner ignore lines).any (Visit.sets mark id) then some true else none := by
  rw [← markAt_of_run hrun, markAt, hc, Option.bind_some]

/-! ## First constructors -/

/-- A class after an action extends the one that was there before, or it is registered by the action
with its first constructor. -/
theorem get?_perform_cases (h : st.Settled ignore)
    (hperform : perform cleaner st action = .ok next) {id : Nat} {d : ClassDef}
    (hd : next.registry.get? id = some d) :
    (∃ c, st.registry.get? id = some c ∧ c.Extends d) ∨
      ∃ c varId params body, c = { space := c.space, name := c.name } ∧
        d = constructed cleaner c varId params body := by
  cases hc : st.registry.get? id with
  | some c =>
      obtain ⟨later, hlater, hextends⟩ := (perform_extends hperform).registry id c hc
      rw [hd] at hlater
      cases hlater
      exact .inl ⟨c, rfl, hextends⟩
  | none =>
      -- only a constructor registers a class
      rcases (perform_identityStep hperform).get?_cases hd with ⟨c, hc', -⟩ | ⟨varId, hbinding, -⟩
      · rw [hc] at hc'
        cases hc'
      · cases action with
        | constructor varId params body =>
            cases performConstructor_constructs hperform with
            | nothing | detached => rw [hc] at hd; cases hd
            | @registered c apart hkept _ =>
                rw [Registry.get?_append, hc] at hd
                split at hd
                · cases hd
                  exact .inr ⟨c, varId, params, body, h.declared_of_kept apart hkept, rfl⟩
                · cases hd
            | extended =>
                rw [Registry.get?_rebind, hc] at hd
                cases hd
        | _ => cases hbinding

/-- At every boundary the first method of a class is a constructor with its body. -/
theorem Boundary.firstConstructor (h : Boundary cleaner (State.initial ignore) lines index st) :
    ∀ id c, st.registry.get? id = some c →
      ∃ params body, [Method.constructor params body] <+: c.methods := by
  induction h with
  | start => intro id c hc; cases hc
  | advance before hline hstep ih =>
      obtain ⟨action, -, hperform⟩ := (step_eq_ok_iff ..).mp hstep
      intro id d hd
      rcases get?_perform_cases before.settled hperform hd with
        ⟨c, hc, hextends⟩ | ⟨c, varId, params, body, hbare, rfl⟩
      · obtain ⟨params, body, hfirst⟩ := ih id c hc
        exact ⟨params, body, hfirst.trans hextends.methods⟩
      · rw [hbare]
        exact ⟨_, _, List.prefix_rfl⟩

end ClassRecovery.Dump
