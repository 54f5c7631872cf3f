import ClassRecovery.Proofs.Dump.Growth

/-!
# Reading a dump in pieces

A dump that can be read on its own is read in the same way where more lines follow: no construct of
it reaches into those lines. The run then goes on like one that is started on them in the state
reached so far (`run_append`), and it only adds to that state.
-/

set_option autoImplicit false

namespace ClassRecovery.Dump

/-- The same visit of a dump that has more lines at its end. -/
def Visit.followedBy (more : List String) (v : Visit) : Visit := { v with rest := v.rest ++ more }

/-- The same visit `n` lines further down. -/
def Visit.shift (n : Nat) (v : Visit) : Visit := { v with index := v.index + n }

variable {cleaner : Cleaner} {start st final : State} {lines : List String} {index : Nat}

/-- Started further down, a run comes to the same lines in the same states. -/
theorem visitsFrom_add (n skip index : Nat) (st : State) (lines : List String) :
    visitsFrom cleaner skip (index + n) st lines
      = (visitsFrom cleaner skip index st lines).map (Visit.shift n) := by
  induction lines generalizing skip index st with
  | nil => cases skip <;> rfl
  | cons line rest ih =>
      have hnext : index + n + 1 = index + 1 + n := Nat.add_right_comm index n 1
      cases skip with
      | succ skip => simp only [visitsFrom, hnext, ih]
      | zero =>
          simp only [visitsFrom, step_add, hnext, List.map_cons]
          cases step cleaner st index line rest with
          | error failure => rfl
          | ok outcome => exact congrArg (_ :: ·) (ih outcome.2 (index + 1) outcome.1)

/-- The visits of a dump that is read to its end, where more lines follow: those of the dump, then
those of the lines after it. -/
theorem Boundary.visitsFrom_append (more : List String)
    (h : Boundary cleaner start lines index st)
    (hrun : runFrom cleaner 0 0 start lines = .ok final) :
    visitsFrom cleaner 0 index st ((lines ++ more).drop index)
      = (visitsFrom cleaner 0 index st (lines.drop index)).map (Visit.followedBy more)
        ++ visitsFrom cleaner 0 lines.length final more := by
  refine h.induction_of_runFrom (P := fun index st =>
    visitsFrom cleaner 0 index st ((lines ++ more).drop index)
      = (visitsFrom cleaner 0 index st (lines.drop index)).map (Visit.followedBy more)
        ++ visitsFrom cleaner 0 lines.length final more) ?_ ?_ hrun
  · intro _
    rw [List.drop_left, List.drop_length]
    rfl
  · intro index st line rest next read hboundary hline hstep hnext
    have hmore : (lines ++ more).drop index = line :: (rest ++ more) := by
      rw [List.drop_append_of_le_length hboundary.index_le, hline, List.cons_append]
    have hstep' := (step_append hstep).2 more
    rw [visitsFrom_of_step hmore hstep', visitsFrom_of_step hline hstep, hnext]
    rfl

/-- **Reading is incremental.** Let `first` be read to its end, in state `st`. Where `second`
follows, the run comes to the boundary between the two in state `st`; up to there it visits the
lines of `first`, and from there on it visits the lines of `second`, succeeds or fails as a run on
`second` that starts in `st` does, with places counted from the beginning of `first`. If it
succeeds, all that was recovered from `first` is still there, before anything else. -/
theorem run_append {ignore : IgnoreList} {first : List String}
    (accepted : run cleaner ignore first = .ok st) (second : List String) :
    Boundary cleaner (State.initial ignore) (first ++ second) first.length st ∧
      visits cleaner ignore (first ++ second)
        = (visits cleaner ignore first).map (Visit.followedBy second)
          ++ (visitsFrom cleaner 0 0 st second).map (Visit.shift first.length) ∧
      run cleaner ignore (first ++ second)
        = (runFrom cleaner 0 0 st second).mapError (Error.shift first.length) ∧
      ∀ final, run cleaner ignore (first ++ second) = .ok final → st.Extends final := by
  have hboundary : Boundary cleaner (State.initial ignore) (first ++ second) first.length st :=
    (boundary_length_iff.mpr accepted).append second
  refine ⟨hboundary, ?_, ?_, fun final hfinal => hboundary.extends hfinal⟩
  · have hshift := @visitsFrom_add cleaner first.length 0 0 st second
    rw [Nat.zero_add] at hshift
    rw [← hshift]
    exact Boundary.start.visitsFrom_append second accepted
  · have hshift := runFrom_add first.length 0 second cleaner 0 st
    rw [Nat.zero_add] at hshift
    calc run cleaner ignore (first ++ second)
        = runFrom cleaner 0 first.length st ((first ++ second).drop first.length) :=
          hboundary.runFrom_eq
      _ = runFrom cleaner 0 first.length st second := by rw [List.drop_left]
      _ = (runFrom cleaner 0 0 st second).mapError (Error.shift first.length) := hshift

/-- A class, then a static property of it: what follows the constructor is read as if the dump
began there with the class at hand, and a line that cannot be read is counted from the top. -/
theorem run_append_of_constructor :
    ∃ st, run {} {} ["\t// N.C", "\tvar $C = function() \x7b", "\t\x7d;"] = .ok st ∧
      (runFrom {} 0 0 st ["\t$C.size = 1;", "size"]).mapError (Error.shift 3)
        = .error (.unrecognizedAt 4 "size") ∧
      ∃ final, run {} {} (["\t// N.C", "\tvar $C = function() \x7b", "\t\x7d;"]
        ++ ["\t$C.size = 1;"]) = .ok final ∧ st.Extends final := by
  refine exists_ok_and (by decide +kernel) fun st accepted => ⟨?_, ?_⟩
  · have hrun := (run_append accepted ["\t$C.size = 1;", "size"]).2.2.1
    exact hrun.symm.trans rfl
  · refine exists_ok_and (by decide +kernel) fun final hfinal => ?_
    exact (run_append accepted ["\t$C.size = 1;"]).2.2.2 final hfinal

end ClassRecovery.Dump
