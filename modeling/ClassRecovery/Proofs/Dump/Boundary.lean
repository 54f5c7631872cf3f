import ClassRecovery.Proofs.Dump.Place

/-!
# Step boundaries

A run is a sequence of steps, and each step may read several lines. `Boundary` tells the places
between two steps together with the state there, so what every step keeps is proved of a whole run
by one induction on it. A run succeeds exactly when the end of the dump is a boundary
(`boundary_length_iff`).

`visits` lists the top-level lines of a run in source order, each with the state in which it is
read.
-/

set_option autoImplicit false

namespace ClassRecovery.Dump

/-- The state in which a dump is begun under an ignore list. -/
def State.initial (ignore : IgnoreList) : State := { ignore := ignore }

/-- The run that starts in `start` comes, between two steps, to this place in this state. -/
inductive Boundary (cleaner : Cleaner) (start : State) (lines : List String) :
    Nat → State → Prop
  | start : Boundary cleaner start lines 0 start
  | advance {index read : Nat} {st next : State} {line : String} {rest : List String}
      (before : Boundary cleaner start lines index st) (hline : lines.drop index = line :: rest)
      (hstep : step cleaner st index line rest = .ok (next, read)) :
      Boundary cleaner start lines (index + 1 + read) next

/-- A top-level line as a run comes to it. -/
structure Visit where
  /-- The state before the line. -/
  state : State
  index : Nat
  line : String
  /-- The lines after it. -/
  rest : List String
  deriving DecidableEq, Repr

/-- The shape of a top-level line. -/
def Visit.shape (v : Visit) : Option LineShape := classify v.state.scope v.line

/-- The top-level lines from this place on, after passing over `skip` lines of a construct. -/
def visitsFrom (cleaner : Cleaner) : Nat → Nat → State → List String → List Visit
  | _, _, _, [] => []
  | skip + 1, index, st, _ :: rest => visitsFrom cleaner skip (index + 1) st rest
  | 0, index, st, line :: rest =>
    ⟨st, index, line, rest⟩ ::
      match step cleaner st index line rest with
      | .ok (next, read) => visitsFrom cleaner read (index + 1) next rest
      | .error _ => []

/-- The top-level lines of a dump that is read under an ignore list. -/
def visits (cleaner : Cleaner) (ignore : IgnoreList) (lines : List String) : List Visit :=
  visitsFrom cleaner 0 0 (State.initial ignore) lines

variable {cleaner : Cleaner} {start st final : State} {lines : List String} {index : Nat}

/-! ## Passing over lines -/

theorem runFrom_skip (skip index : Nat) (st : State) (lines : List String) :
    runFrom cleaner skip index st lines
      = runFrom cleaner 0 (index + skip) st (lines.drop skip) := by
  induction lines generalizing skip index with
  | nil => cases skip <;> rfl
  | cons line rest ih =>
      cases skip with
      | zero => rfl
      | succ skip =>
          have hplace : index + 1 + skip = index + (skip + 1) := by omega
          rw [List.drop_succ_cons, ← hplace]
          exact ih skip (index + 1)

theorem visitsFrom_skip (skip index : Nat) (st : State) (lines : List String) :
    visitsFrom cleaner skip index st lines
      = visitsFrom cleaner 0 (index + skip) st (lines.drop skip) := by
  induction lines generalizing skip index with
  | nil => cases skip <;> rfl
  | cons line rest ih =>
      cases skip with
      | zero => rfl
      | succ skip =>
          have hplace : index + 1 + skip = index + (skip + 1) := by omega
          rw [List.drop_succ_cons, ← hplace]
          exact ih skip (index + 1)

/-! ## Lines after a construct -/

/-- A cut that succeeds takes fewer lines than there are, and lines after them do not change it. -/
theorem cutAtClosing_append {closes : String → Bool} {terminator closing : String}
    {rest body : List String}
    (h : cutAtClosing closes terminator index rest = .ok (body, closing)) :
    body.length + 1 ≤ rest.length ∧
      ∀ more, cutAtClosing closes terminator index (rest ++ more) = .ok (body, closing) := by
  have hcut := cutAtClosing_eq_ok_iff.mp h
  exact ⟨length_lt_of_cutAtClosing? hcut,
    fun more => cutAtClosing_eq_ok_iff.mpr (cutAtClosing?_append hcut more)⟩

/-- An action that can be read has no more lines than there are, and lines after them do not
change it. -/
theorem actionOf_append {line : String} {rest : List String} {shape : LineShape} {action : Action}
    {read : Nat} (h : actionOf index line rest shape = .ok (action, read)) :
    read ≤ rest.length ∧
      ∀ more, actionOf index line (rest ++ more) shape = .ok (action, read) := by
  cases shape with
  | boilerplate | globalDirective | constructorPrototype | separator =>
      cases h; exact ⟨Nat.zero_le _, fun _ => rfl⟩
  | globalAssignment | assembly | staticProperty | classInline | interfaceInline
  | genericArity | enumInline =>
      cases h; exact ⟨Nat.zero_le _, fun _ => rfl⟩
  | className qualified =>
      refine ⟨?_, fun _ => h⟩
      obtain ⟨c, -, h⟩ := bind_eq_ok_iff.mp h
      cases h; exact Nat.zero_le _
  | globalBlock | constructor | staticMethod | initializerBlock =>
      obtain ⟨⟨body, closing⟩, hcut, h⟩ := bind_eq_ok_iff.mp h
      obtain ⟨hlength, happend⟩ := cutAtClosing_append hcut
      cases h
      exact ⟨hlength, fun more => bind_eq_ok_iff.mpr ⟨_, happend more, rfl⟩⟩
  | classBlock varId =>
      obtain ⟨⟨body, closing⟩, hcut, h⟩ := bind_eq_ok_iff.mp h
      obtain ⟨hlength, happend⟩ := cutAtClosing_append hcut
      refine ⟨?_, fun more => bind_eq_ok_iff.mpr ⟨_, happend more, h⟩⟩
      obtain ⟨trailer, -, h⟩ := bind_eq_ok_iff.mp h
      cases h; exact hlength

theorem readAction_append {scope : Scope} {line : String} {rest : List String} {action : Action}
    {read : Nat} (h : readAction scope index line rest = .ok (action, read)) :
    read ≤ rest.length ∧
      ∀ more, readAction scope index line (rest ++ more) = .ok (action, read) := by
  unfold readAction at h ⊢
  cases hshape : classify scope line with
  | some shape =>
      rw [hshape] at h
      exact actionOf_append h
  | none =>
      rw [hshape] at h
      cases h

/-- A step that succeeds reads no more lines than there are, and lines after them do not change
it. -/
theorem step_append {line : String} {rest : List String} {next : State} {read : Nat}
    (h : step cleaner st index line rest = .ok (next, read)) :
    read ≤ rest.length ∧
      ∀ more, step cleaner st index line (rest ++ more) = .ok (next, read) := by
  obtain ⟨action, hread, hperform⟩ := (step_eq_ok_iff cleaner st index line rest).mp h
  obtain ⟨hle, happend⟩ := readAction_append hread
  exact ⟨hle, fun more =>
    (step_eq_ok_iff cleaner st index line (rest ++ more)).mpr ⟨action, happend more, hperform⟩⟩

/-! ## Boundaries and runs -/

theorem drop_step {line : String} {rest : List String} (hline : lines.drop index = line :: rest)
    (read : Nat) : lines.drop (index + 1 + read) = rest.drop read := by
  rw [Nat.add_assoc, ← List.drop_drop, hline, Nat.add_comm 1 read, List.drop_succ_cons]

theorem runFrom_of_step {line : String} {rest : List String} {next : State} {read : Nat}
    (hline : lines.drop index = line :: rest)
    (hstep : step cleaner st index line rest = .ok (next, read)) :
    runFrom cleaner 0 index st (lines.drop index)
      = runFrom cleaner 0 (index + 1 + read) next (lines.drop (index + 1 + read)) := by
  rw [drop_step hline, ← runFrom_skip, hline]
  simp only [runFrom, hstep]

theorem visitsFrom_of_step {line : String} {rest : List String} {next : State} {read : Nat}
    (hline : lines.drop index = line :: rest)
    (hstep : step cleaner st index line rest = .ok (next, read)) :
    visitsFrom cleaner 0 index st (lines.drop index)
      = ⟨st, index, line, rest⟩
        :: visitsFrom cleaner 0 (index + 1 + read) next (lines.drop (index + 1 + read)) := by
  rw [drop_step hline, ← visitsFrom_skip, hline]
  simp only [visitsFrom, hstep]

/-- What is left to do at a boundary decides how the run ends. -/
theorem Boundary.runFrom_eq (h : Boundary cleaner start lines index st) :
    runFrom cleaner 0 0 start lines = runFrom cleaner 0 index st (lines.drop index) := by
  induction h with
  | start => rfl
  | advance before hline hstep ih => rw [ih, runFrom_of_step hline hstep]

theorem Boundary.index_le (h : Boundary cleaner start lines index st) :
    index ≤ lines.length := by
  induction h with
  | start => exact Nat.zero_le _
  | @advance index read st next line rest before hline hstep ih =>
      have hle := (step_append hstep).1
      have hlength := congrArg List.length hline
      simp only [List.length_drop, List.length_cons] at hlength
      omega

/-- A run that succeeds is at the end of the dump, or its next step succeeds. -/
theorem runFrom_eq_ok_cases (h : runFrom cleaner 0 index st (lines.drop index) = .ok final) :
    (lines.drop index = [] ∧ st = final) ∨
      ∃ line rest next read, lines.drop index = line :: rest ∧
        step cleaner st index line rest = .ok (next, read) ∧
        runFrom cleaner 0 (index + 1 + read) next (lines.drop (index + 1 + read)) = .ok final := by
  cases hline : lines.drop index with
  | nil =>
      rw [hline] at h
      cases h
      exact .inl ⟨rfl, rfl⟩
  | cons line rest =>
      cases hstep : step cleaner st index line rest with
      | error failure =>
          rw [hline] at h
          simp [runFrom, hstep] at h
      | ok outcome =>
          rw [runFrom_of_step hline hstep] at h
          exact .inr ⟨line, rest, outcome.1, outcome.2, rfl, hstep, h⟩

/-- Induction from the end of the dump: what holds at a boundary if it holds at the next one holds
at every boundary. -/
theorem Boundary.induction_onward {P : Nat → State → Prop}
    (onward : ∀ {index : Nat} {st : State}, Boundary cleaner start lines index st →
      (∀ {line : String} {rest : List String} {next : State} {read : Nat},
        lines.drop index = line :: rest → step cleaner st index line rest = .ok (next, read) →
          P (index + 1 + read) next) → P index st)
    (h : Boundary cleaner start lines index st) : P index st := by
  -- on the number of lines left to read
  obtain ⟨left, hleft⟩ : ∃ left, lines.length - index = left := ⟨_, rfl⟩
  induction left using Nat.strongRecOn generalizing index st with
  | ind left ih =>
      refine onward h fun hline hstep => ?_
      have hnext := Boundary.advance h hline hstep
      have hle := hnext.index_le
      exact ih _ (by omega) hnext rfl

/-- Induction over a run that succeeds, from its end: what holds at the end of the dump and is
passed back by every step holds at every boundary. -/
theorem Boundary.induction_of_runFrom {P : Nat → State → Prop}
    (last : Boundary cleaner start lines lines.length final → P lines.length final)
    (back : ∀ {index : Nat} {st : State} {line : String} {rest : List String} {next : State}
      {read : Nat}, Boundary cleaner start lines index st → lines.drop index = line :: rest →
        step cleaner st index line rest = .ok (next, read) → P (index + 1 + read) next →
          P index st)
    (hrun : runFrom cleaner 0 0 start lines = .ok final)
    (h : Boundary cleaner start lines index st) : P index st := by
  refine Boundary.induction_onward (fun {index st} h onward => ?_) h
  -- what is left to do at the boundary succeeds as well
  rw [h.runFrom_eq] at hrun
  rcases runFrom_eq_ok_cases hrun with ⟨hend, rfl⟩ | ⟨line, rest, next, read, hline, hstep, -⟩
  · have hle := h.index_le
    have hlength := List.drop_eq_nil_iff.mp hend
    obtain rfl : index = lines.length := by omega
    exact last h
  · exact back h hline hstep (onward hline hstep)

/-- A run succeeds exactly when the end of the dump is one of its boundaries. -/
theorem boundary_length_iff :
    Boundary cleaner start lines lines.length final ↔
      runFrom cleaner 0 0 start lines = .ok final := by
  constructor
  · intro h
    rw [h.runFrom_eq, List.drop_length]
    rfl
  · intro h
    exact Boundary.start.induction_of_runFrom (P := fun _ _ => Boundary cleaner start lines _ final)
      id (fun _ _ _ hend => hend) h

/-- The lines after a boundary do not change how the run comes there. -/
theorem Boundary.append (h : Boundary cleaner start lines index st) (more : List String) :
    Boundary cleaner start (lines ++ more) index st := by
  induction h with
  | start => exact .start
  | @advance index read st next line rest before hline hstep ih =>
      have hle := before.index_le
      have hmore : (lines ++ more).drop index = line :: (rest ++ more) := by
        rw [List.drop_append_of_le_length hle, hline, List.cons_append]
      exact .advance ih hmore ((step_append hstep).2 more)

/-! ## Boundaries and visits -/

/-- The visits from a boundary on are the last visits of the run. -/
theorem Boundary.visitsFrom_eq (h : Boundary cleaner start lines index st) :
    ∃ earlier, visitsFrom cleaner 0 0 start lines
      = earlier ++ visitsFrom cleaner 0 index st (lines.drop index) := by
  induction h with
  | start => exact ⟨[], rfl⟩
  | @advance index read st next line rest before hline hstep ih =>
      obtain ⟨earlier, hearlier⟩ := ih
      refine ⟨earlier ++ [⟨st, index, line, rest⟩], ?_⟩
      rw [hearlier, visitsFrom_of_step hline hstep, List.append_assoc, List.singleton_append]

/-- A visit from a boundary on is at a boundary. -/
theorem Boundary.of_mem_visitsFrom (h : Boundary cleaner start lines index st) {v : Visit} :
    v ∈ visitsFrom cleaner 0 index st (lines.drop index) →
      Boundary cleaner start lines v.index v.state ∧ lines.drop v.index = v.line :: v.rest := by
  refine Boundary.induction_onward (P := fun index st =>
    v ∈ visitsFrom cleaner 0 index st (lines.drop index) →
      Boundary cleaner start lines v.index v.state ∧ lines.drop v.index = v.line :: v.rest) ?_ h
  intro index st h onward hv
  cases hline : lines.drop index with
  | nil => rw [hline] at hv; cases hv
  | cons line rest =>
      cases hstep : step cleaner st index line rest with
      | error failure =>
          -- the line at which the run fails is its last visit
          rw [hline] at hv
          simp only [visitsFrom, hstep, List.mem_singleton] at hv
          subst hv
          exact ⟨h, hline⟩
      | ok outcome =>
          rw [visitsFrom_of_step hline hstep, List.mem_cons] at hv
          rcases hv with rfl | hv
          · exact ⟨h, hline⟩
          · exact onward hline hstep hv

/-- The visits of a run are its boundaries before the end of the dump. -/
theorem mem_visits_iff {ignore : IgnoreList} {v : Visit} :
    v ∈ visits cleaner ignore lines ↔
      Boundary cleaner (State.initial ignore) lines v.index v.state ∧
        lines.drop v.index = v.line :: v.rest := by
  constructor
  · intro hv
    exact Boundary.start.of_mem_visitsFrom hv
  · rintro ⟨h, hline⟩
    obtain ⟨earlier, hearlier⟩ := h.visitsFrom_eq
    rw [visits, hearlier, hline]
    simp [visitsFrom]

end ClassRecovery.Dump
