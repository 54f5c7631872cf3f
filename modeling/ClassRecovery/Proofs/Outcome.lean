import Mathlib.Data.List.Basic

/-!
# Outcomes

A computation that may fail has an outcome in `Except`. These are the facts about the outcomes of
sequences and images that the theory of runs needs. `SameOutcome` compares two computations: they
fail alike, or both succeed.
-/

set_option autoImplicit false

namespace ClassRecovery

variable {α β ε ε' : Type}

@[simp] theorem ok_bind (a : α) (f : α → Except ε β) : ((.ok a : Except ε α) >>= f) = f a := rfl

theorem mapError_ok (a : α) (rename : ε → ε') :
    (.ok a : Except ε α).mapError rename = .ok a := rfl

/-- A sequence succeeds exactly when both of its parts do. -/
theorem bind_eq_ok_iff {x : Except ε α} {f : α → Except ε β} {b : β} :
    (x >>= f) = .ok b ↔ ∃ a, x = .ok a ∧ f a = .ok b := by
  cases x with
  | ok a => simp [bind, Except.bind]
  | error e => simp [bind, Except.bind]

/-- An image succeeds exactly when what it is the image of does. -/
theorem map_eq_ok_iff {x : Except ε α} {f : α → β} {b : β} :
    x.map f = .ok b ↔ ∃ a, x = .ok a ∧ f a = b := by
  cases x with
  | ok a => simp [Except.map]
  | error e => simp [Except.map]

/-- A sequence fails exactly when one of its parts does. -/
theorem bind_eq_error_iff {x : Except ε α} {f : α → Except ε β} {e : ε} :
    (x >>= f) = .error e ↔ x = .error e ∨ ∃ a, x = .ok a ∧ f a = .error e := by
  cases x with
  | ok a => simp [bind, Except.bind]
  | error e => simp [bind, Except.bind]

/-- An image fails exactly when what it is the image of does. -/
theorem map_eq_error_iff {x : Except ε α} {f : α → β} {e : ε} :
    x.map f = .error e ↔ x = .error e := by
  cases x with
  | ok a => simp [Except.map]
  | error e => simp [Except.map]

/-- A failure under another name is a failure. -/
theorem mapError_eq_ok_iff {x : Except ε α} {rename : ε → ε'} {a : α} :
    x.mapError rename = .ok a ↔ x = .ok a := by
  cases x with
  | ok b => rw [mapError_ok, Except.ok.injEq, Except.ok.injEq]
  | error e => constructor <;> intro h <;> cases h

/-- A computation that succeeds has a result, with all that holds of its results. -/
theorem exists_ok_and {x : Except ε α} {P : α → Prop} (succeeds : x.isOk = true)
    (h : ∀ a, x = .ok a → P a) : ∃ a, x = .ok a ∧ P a := by
  cases x with
  | ok a => exact ⟨a, rfl, h a rfl⟩
  | error e => cases succeeds

/-- If each computation succeeds exactly under a condition, and then with a known result, so does the
list of them. -/
theorem mapM_eq_ok_iff {f : α → Except ε β} {P : α → Prop} {g : α → β}
    (hf : ∀ a b, f a = .ok b ↔ P a ∧ b = g a) {l : List α} {results : List β} :
    l.mapM f = .ok results ↔ (∀ a ∈ l, P a) ∧ results = l.map g := by
  induction l generalizing results with
  | nil => simp [pure, Except.pure, eq_comm]
  | cons a rest ih =>
      simp only [List.mapM_cons, bind_eq_ok_iff, hf, ih, List.forall_mem_cons, List.map_cons]
      constructor
      · rintro ⟨first, ⟨ha, rfl⟩, later, ⟨hrest, rfl⟩, h⟩
        cases h
        exact ⟨⟨ha, hrest⟩, rfl⟩
      · rintro ⟨⟨ha, hrest⟩, rfl⟩
        exact ⟨_, ⟨ha, rfl⟩, _, ⟨hrest, rfl⟩, rfl⟩

/-- Both computations fail with the same failure, or both succeed and their results are
related. -/
inductive SameOutcome {α β ε : Type} (R : α → β → Prop) : Except ε α → Except ε β → Prop
  | ok {a : α} {b : β} (related : R a b) : SameOutcome R (.ok a) (.ok b)
  | error (failure : ε) : SameOutcome R (.error failure) (.error failure)

namespace SameOutcome

variable {α' β' : Type} {R : α → β → Prop} {S : α' → β' → Prop}

theorem bind {x : Except ε α} {y : Except ε β} {f : α → Except ε α'} {g : β → Except ε β'}
    (h : SameOutcome R x y) (hfg : ∀ a b, R a b → SameOutcome S (f a) (g b)) :
    SameOutcome S (x >>= f) (y >>= g) := by
  cases h with
  | ok related => exact hfg _ _ related
  | error failure => exact .error failure

/-- A computation and an image of it. -/
theorem map (x : Except ε α) (f : α → β) : SameOutcome (fun a b => b = f a) x (x.map f) := by
  cases x with
  | ok a => exact .ok rfl
  | error failure => exact .error failure

/-- If related results have the same image, so have the computations. -/
theorem map_eq {γ : Type} {x : Except ε α} {y : Except ε β} {f : α → γ} {g : β → γ}
    (h : SameOutcome R x y) (hfg : ∀ a b, R a b → f a = g b) : x.map f = y.map g := by
  cases h with
  | ok related => exact congrArg Except.ok (hfg _ _ related)
  | error failure => rfl

end SameOutcome

end ClassRecovery
