import ClassRecovery.Proofs.Dump.Boundary

/-!
# Two runs in lockstep

Two runs over one dump that are in states of one scope read the same action. If whatever they read
has the same outcome in both and leads to related states again, then the runs fail alike or both
succeed, in related states (`runFrom_sameOutcome`). The two may clean their lines differently.
-/

set_option autoImplicit false

namespace ClassRecovery.Dump

/-- The action that is read at a top-level line, or the failure to read one. -/
def Visit.action (v : Visit) : Except Error Action :=
  (readAction v.state.scope v.index v.line v.rest).map Prod.fst

theorem Visit.action_eq_ok {v : Visit} {action : Action} {read : Nat}
    (h : readAction v.state.scope v.index v.line v.rest = .ok (action, read)) :
    v.action = .ok action := by
  rw [Visit.action, h]
  rfl

/-- The action at a top-level line has been opened by it. -/
theorem Visit.exists_openedBy {v : Visit} {action : Action} (h : v.action = .ok action) :
    ∃ shape, v.shape = some shape ∧ action.OpenedBy shape v.rest := by
  obtain ⟨⟨action', read⟩, hread, rfl⟩ := map_eq_ok_iff.mp h
  exact exists_openedBy_of_readAction hread

variable {cleaner cleaner' : Cleaner} {R : State → State → Prop} {Admits : Visit → Prop}

/-- A step of two related runs. -/
theorem step_sameOutcome (scope_eq : ∀ st st', R st st' → st'.scope = st.scope)
    (perform_same : ∀ v st' action, Admits v → R v.state st' → v.action = .ok action →
      SameOutcome R (perform cleaner v.state action) (perform cleaner' st' action))
    {v : Visit} {st' : State} (hadmits : Admits v) (h : R v.state st') :
    SameOutcome (fun a b => R a.1 b.1 ∧ a.2 = b.2)
      (step cleaner v.state v.index v.line v.rest) (step cleaner' st' v.index v.line v.rest) := by
  rw [step_eq, step_eq, scope_eq _ _ h]
  cases hread : readAction v.state.scope v.index v.line v.rest with
  | error failure => exact .error failure
  | ok entry =>
      obtain ⟨action, read⟩ := entry
      have hperform := perform_same v st' action hadmits h (Visit.action_eq_ok hread)
      exact hperform.bind fun a b hab => .ok ⟨hab, rfl⟩

/-- **Runs in lockstep.** Related states have one scope, and what is read at an admitted line has
the same outcome in both runs. Then so have the runs, if all lines of the first one are admitted. -/
theorem runFrom_sameOutcome (scope_eq : ∀ st st', R st st' → st'.scope = st.scope)
    (perform_same : ∀ v st' action, Admits v → R v.state st' → v.action = .ok action →
      SameOutcome R (perform cleaner v.state action) (perform cleaner' st' action))
    {skip index : Nat} {st st' : State} {lines : List String} (h : R st st')
    (hvisits : ∀ v ∈ visitsFrom cleaner skip index st lines, Admits v) :
    SameOutcome R (runFrom cleaner skip index st lines) (runFrom cleaner' skip index st' lines) := by
  induction lines generalizing skip index st st' with
  | nil => cases skip <;> exact .ok h
  | cons line rest ih =>
      cases skip with
      | succ skip => exact ih h hvisits
      | zero =>
          simp only [visitsFrom, List.forall_mem_cons] at hvisits
          obtain ⟨hadmits, hlater⟩ := hvisits
          have hsame := step_sameOutcome scope_eq perform_same (v := ⟨st, index, line, rest⟩)
            hadmits h
          unfold runFrom
          dsimp only at hsame
          generalize step cleaner st index line rest = outcome at hsame hlater ⊢
          generalize step cleaner' st' index line rest = outcome' at hsame ⊢
          cases hsame with
          | error failure => exact .error failure
          | @ok next next' related =>
              obtain ⟨next, read⟩ := next
              obtain ⟨next', read'⟩ := next'
              obtain ⟨hnext, rfl⟩ := related
              exact ih hnext hlater

end ClassRecovery.Dump
