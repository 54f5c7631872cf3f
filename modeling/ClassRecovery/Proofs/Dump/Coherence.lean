import ClassRecovery.Proofs.Dump.Identity
import ClassRecovery.Proofs.Dump.IgnoreList

/-!
# The state of a run as a whole

A class is read in stages: a comment names it, its first constructor registers it or, if it is
ignored, sets it apart. The stage, the names ignored so far, the registry and the scope of
classification go together: `State.Coherent` says how, and `coherent_of_boundary` that they do
between any two steps of any run.

Constructors, which lead from one stage to the next, carry the argument. Static members matter as
well, since they change the class being read wherever it is kept; they are only recognized where
that class has a variable, hence never before its first constructor (`fits_of_readAction`).
-/

set_option autoImplicit false

namespace ClassRecovery.Dump

/-- The parts of the state of a run agree, where the run began with this ignore list. -/
structure State.Coherent (ignore : IgnoreList) (st : State) : Prop where
  /-- The variable of a registered class stands for it. -/
  registered : ∀ id, st.current = some (.registered id) →
    id < st.registry.size ∧ ∃ c varId, st.registry.get? id = some c ∧ c.varId = some varId ∧
      st.registry.findByVar? varId = some id
  /-- Of a class before its first constructor only the name is known. -/
  declared : ∀ c, st.current = some (.declared c) → c = { space := c.space, name := c.name }
  /-- A class that is set apart is ignored, and so is its variable. -/
  detached : ∀ c, st.current = some (.detached c) →
    st.ignore.contains c.qualifiedName = true ∧ ∃ varId, c.varId = some varId ∧
      (Text.trimmed varId = "" ∨ st.ignore.contains (Text.trimmed varId) = true)
  /-- The scope has a variable from the first constructor on. -/
  scope : st.scope.varId.isSome = true ↔
    (∃ id, st.current = some (.registered id)) ∨ ∃ c, st.current = some (.detached c)
  /-- No class that is ignored from the beginning is registered. -/
  kept : ∀ id c, st.registry.get? id = some c → ignore.contains c.qualifiedName = false
  /-- No two classes have one variable. -/
  single : ∀ id other c d, st.registry.get? id = some c → st.registry.get? other = some d →
    c.varId = d.varId → id = other

variable {cleaner : Cleaner} {ignore : IgnoreList} {st next : State} {action : Action}
  {lines rest : List String} {line : String} {index read : Nat}

/-! ## Identities after a step -/

theorem IdentityStep.size_le {r : Registry} (h : IdentityStep st action r) :
    st.registry.size ≤ r.size := by
  cases h with
  | same _ hsame => exact Nat.le_of_eq hsame.size_eq.symm
  | registered => exact Nat.le.intro (Registry.size_append ..).symm
  | extended => exact Nat.le_of_eq (Registry.size_rebind ..).symm

/-- A class after a step was there before, under its name and unless it has been extended with its
variable, or it is the one that is registered. -/
theorem IdentityStep.get?_cases {r : Registry} {id : Nat} {d : ClassDef}
    (h : IdentityStep st action r) (hd : r.get? id = some d) :
    (∃ c, st.registry.get? id = some c ∧ d.qualifiedName = c.qualifiedName ∧
        (d.varId = c.varId ∨ d.varId.isSome = true)) ∨
      ∃ varId, st.binding? action = some ⟨varId, st.registry.size, d.qualifiedName, true⟩ ∧
        d.varId = some varId := by
  cases h with
  | same _ hsame =>
      obtain ⟨c, hc, hname, hvarId⟩ := hsame.exists_get? hd
      exact .inl ⟨c, hc, hname, .inl hvarId⟩
  | registered hbinding hvar _ =>
      rw [Registry.get?_append] at hd
      split at hd
      · cases hd
        exact .inr ⟨_, hbinding, hvar⟩
      · exact .inl ⟨d, hd, rfl, .inl rfl⟩
  | extended _ _ _ hname hvar =>
      rw [Registry.get?_rebind, Option.map_eq_some_iff] at hd
      obtain ⟨c, hc, rfl⟩ := hd
      refine .inl ⟨c, hc, ?_⟩
      split
      · exact ⟨hname c, .inr (by rw [hvar]; rfl)⟩
      · exact ⟨rfl, .inl rfl⟩

/-! ## What is read in a scope -/

/-- What an action has to be to be read in this scope. -/
def Action.Fits (scope : Scope) : Action → Prop
  | .className c => c = { space := c.space, name := c.name }
  | .staticMethod .. | .staticProperty .. => scope.varId.isSome = true
  | _ => True

theorem varId_of_staticMember? {scope : Scope} {text member : List Char}
    (h : staticMember? scope text = some member) : scope.varId.isSome = true := by
  unfold staticMember? at h
  obtain ⟨varId, hvarId, -⟩ := Option.bind_eq_some_iff.mp h
  rw [hvarId]
  rfl

/-- A class is named without members, and a static member is one of a class that has a variable. -/
theorem fits_of_readAction {scope : Scope}
    (h : readAction scope index line rest = .ok (action, read)) : action.Fits scope := by
  obtain ⟨shape, hshape, hopened⟩ := exists_openedBy_of_readAction h
  have answer := recognizer_of_classify hshape
  cases action with
  | className c =>
      obtain ⟨qualified, -, hclass⟩ := hopened
      obtain ⟨⟨space, name⟩, -, rfl⟩ := Option.map_eq_some_iff.mp hclass
      rfl
  | staticMethod member parts =>
      obtain ⟨params, rfl⟩ := hopened
      obtain ⟨_, hmember, -⟩ := Option.bind_eq_some_iff.mp answer
      exact varId_of_staticMember? hmember
  | staticProperty member value =>
      obtain rfl := hopened
      obtain ⟨_, hmember, -⟩ := Option.bind_eq_some_iff.mp answer
      exact varId_of_staticMember? hmember
  | _ => trivial

/-! ## The ignore list -/

/-- No action takes a name back from the ignore list. -/
theorem contains_ignore_of_perform (h : perform cleaner st action = .ok next) {name : String}
    (hname : st.ignore.contains name = true) : next.ignore.contains name = true := by
  cases action with
  | nothing | block | assembly | separator | className => cases h; exact hname
  | assignment line target value =>
      cases h
      unfold addGlobalAssignment
      split <;> exact hname
  | constructor varId params body =>
      cases performConstructor_constructs h with
      | detached =>
          dsimp only
          exact IgnoreList.contains_insert_of_contains hname
      | nothing | registered | extended => exact hname
  | staticMethod member parts =>
      cases h
      rw [modifyCurrent_ignore]
      exact hname
  | staticProperty member value =>
      cases h
      unfold addStaticProperty
      rw [modifyCurrent_ignore]
      exact hname
  | bulk varId change =>
      rcases perform_bulk_eq_ok_iff.mp h with ⟨-, rfl⟩ | ⟨id, bulk, -, -, rfl⟩ <;> exact hname
  | initializer lines =>
      rw [perform_initializer_eq] at h
      cases h
      exact hname

/-! ## The class being read -/

/-- What the stage of a class says of it, in this state. -/
def Current.Settled (st : State) : Current → Prop
  | .declared c => c = { space := c.space, name := c.name }
  | .registered id => id < st.registry.size
  | .detached c =>
    st.ignore.contains c.qualifiedName = true ∧ ∃ varId, c.varId = some varId ∧
      (Text.trimmed varId = "" ∨ st.ignore.contains (Text.trimmed varId) = true)

/-- The stage of the class being read says the truth of it. -/
def State.CurrentSettled (st : State) : Prop :=
  ∀ current, st.current = some current → current.Settled st

/-- What is settled stays so while the registry and the ignore list grow. -/
theorem Current.Settled.mono {current : Current} (h : current.Settled st)
    (hsize : st.registry.size ≤ next.registry.size)
    (hignore : ∀ name, st.ignore.contains name = true → next.ignore.contains name = true) :
    current.Settled next := by
  cases current with
  | declared c => exact h
  | registered id => exact Nat.lt_of_lt_of_le h hsize
  | detached c =>
      obtain ⟨hc, varId, hvarId, htrimmed⟩ := h
      exact ⟨hignore _ hc, varId, hvarId, htrimmed.imp_right (hignore _)⟩

/-- A change that keeps the identity of the class being read keeps what is settled of it, if the
class has had a constructor. -/
theorem currentSettled_modifyCurrent {f : ClassDef → ClassDef} (hf : ClassDef.KeepsIdentity f)
    (hsettled : st.CurrentSettled) (hscope : st.scope.varId.isSome = true) :
    (st.modifyCurrent f).CurrentSettled := by
  intro current hcurrent
  unfold State.modifyCurrent at hcurrent ⊢
  match hread : st.current with
  | none =>
      simp only [hread] at hcurrent ⊢
      exact hsettled current (hread.trans hcurrent)
  | some (.declared c) =>
      -- a class without constructor has no variable
      have hbare : c = { space := c.space, name := c.name } := hsettled _ hread
      have hvarId : st.scope.varId = none := by
        unfold State.scope State.currentClass?
        rw [hread]
        exact congrArg ClassDef.varId hbare
      rw [hvarId] at hscope
      cases hscope
  | some (.detached c) =>
      simp only [hread] at hcurrent ⊢
      cases hcurrent
      obtain ⟨hc, varId, hvarId, htrimmed⟩ := hsettled _ hread
      refine ⟨?_, varId, ?_, htrimmed⟩
      · rw [hf.qualifiedName]
        exact hc
      · rw [(hf c).2.2]
        exact hvarId
  | some (.registered id) =>
      simp only [hread] at hcurrent ⊢
      cases hcurrent
      have hid : id < st.registry.size := hsettled _ hread
      exact Nat.lt_of_lt_of_eq hid (Registry.size_modify ..).symm

theorem constructs_currentSettled {varId params : String} {body : List String}
    (h : Constructs cleaner varId params body st next) (hsettled : st.CurrentSettled) :
    next.CurrentSettled := by
  cases h with
  | nothing => exact hsettled
  | @detached c apart hignored =>
      intro current hcurrent
      obtain rfl := Option.some.inj hcurrent
      have hname : (constructed cleaner c varId params body).qualifiedName = c.qualifiedName := rfl
      -- the list has grown by the variable, so the class is ignored still
      have hclass : (st.ignore.insert varId).contains c.qualifiedName = true :=
        IgnoreList.contains_insert_of_contains hignored
      have hvarId : Text.trimmed varId = "" ∨
          (st.ignore.insert varId).contains (Text.trimmed varId) = true := by
        by_cases hblank : Text.trimmed varId = ""
        · exact .inl hblank
        · exact .inr (IgnoreList.contains_insert_iff.mpr (.inr ⟨rfl, hblank⟩))
      rw [← hname] at hclass
      dsimp only [Current.Settled]
      exact ⟨hclass, varId, rfl, hvarId⟩
  | registered =>
      intro current hcurrent
      cases hcurrent
      show st.registry.size < (st.registry.append _).size
      rw [Registry.size_append]
      exact Nat.lt_succ_self _
  | @extended id _ _ _ =>
      intro current hcurrent
      have hsize := Nat.le_of_eq (Registry.size_rebind st.registry id varId
        fun c => constructed cleaner c varId params body).symm
      exact (hsettled current hcurrent).mono hsize fun _ hname => hname

/-- An action keeps what is settled of the class being read. -/
theorem currentSettled_of_perform (hfits : action.Fits st.scope)
    (h : perform cleaner st action = .ok next) (hsettled : st.CurrentSettled) :
    next.CurrentSettled := by
  have hsize := (perform_identityStep h).size_le
  have hignore (name : String) (hname : st.ignore.contains name = true) :
      next.ignore.contains name = true := contains_ignore_of_perform h hname
  -- most actions leave the class being read alone
  have hsame (hcurrent : next.current = st.current) : next.CurrentSettled := fun current hnext =>
    (hsettled current (hcurrent ▸ hnext)).mono hsize hignore
  cases action with
  | nothing | block | assembly => cases h; exact hsame rfl
  | assignment line target value =>
      cases h
      refine hsame ?_
      unfold addGlobalAssignment
      split <;> rfl
  | separator => cases h; intro current hcurrent; cases hcurrent
  | className c => cases h; intro current hcurrent; cases hcurrent; exact hfits
  | constructor varId params body =>
      exact constructs_currentSettled (performConstructor_constructs h) hsettled
  | staticMethod member parts =>
      cases h
      exact currentSettled_modifyCurrent (addStaticMethod_keepsIdentity _ _ _ _) hsettled hfits
  | staticProperty member value =>
      cases h
      refine currentSettled_modifyCurrent (fun c => ?_) hsettled hfits
      split <;> exact ⟨rfl, rfl, rfl⟩
  | bulk varId change =>
      rcases perform_bulk_eq_ok_iff.mp h with ⟨-, rfl⟩ | ⟨id, bulk, -, -, rfl⟩ <;> exact hsame rfl
  | initializer lines =>
      rw [perform_initializer_eq] at h
      cases h
      exact hsame rfl

/-! ## Registered classes -/

/-- A class that an action registers is not ignored. -/
theorem contains_of_registers {b : Binding} (h : st.binding? action = some b)
    (hregisters : b.registers = true) : st.ignore.contains b.name = false := by
  -- for a class that is kept apart, the binding is made only if the class is not ignored
  have hapart (varId : String) (c : ClassDef)
      (h : (if st.ignore.contains c.qualifiedName then none
        else some ⟨varId, st.registry.size, c.qualifiedName, true⟩) = some b) :
      st.ignore.contains b.name = false := by
    obtain ⟨hkept, h⟩ := Option.ite_none_left_eq_some.mp h
    cases h
    exact Bool.eq_false_iff.mpr hkept
  unfold State.binding? at h
  split at h
  · split at h
    · cases h
    · exact hapart _ _ h
    · exact hapart _ _ h
    · cases h
      cases hregisters
  · cases h

/-- What a run keeps of its state besides its indexes. -/
structure State.Settled (ignore : IgnoreList) (st : State) : Prop where
  current : st.CurrentSettled
  ignored : ∀ name, ignore.contains name = true → st.ignore.contains name = true
  kept : ∀ id c, st.registry.get? id = some c → ignore.contains c.qualifiedName = false
  varId : ∀ id c, st.registry.get? id = some c → c.varId.isSome = true

namespace State.Settled

theorem initial (ignore : IgnoreList) : (State.initial ignore).Settled ignore where
  current := fun _ h => by cases h
  ignored := fun _ h => h
  kept := fun _ _ h => by cases h
  varId := fun _ _ h => by cases h

theorem perform (h : st.Settled ignore) (hfits : action.Fits st.scope)
    (hperform : perform cleaner st action = .ok next) : next.Settled ignore where
  current := currentSettled_of_perform hfits hperform h.current
  ignored := fun name hname => contains_ignore_of_perform hperform (h.ignored name hname)
  kept := fun id d hd => by
    rcases (perform_identityStep hperform).get?_cases hd with
      ⟨c, hc, hname, -⟩ | ⟨varId, hbinding, -⟩
    · rw [hname]
      exact h.kept id c hc
    · exact IgnoreList.contains_eq_false h.ignored (contains_of_registers hbinding rfl)
  varId := fun id d hd => by
    rcases (perform_identityStep hperform).get?_cases hd with
      ⟨c, hc, -, hvarId | hvarId⟩ | ⟨varId, -, hvarId⟩
    · rw [hvarId]
      exact h.varId id c hc
    · exact hvarId
    · rw [hvarId]
      rfl

end State.Settled

theorem Boundary.settled (h : Boundary cleaner (State.initial ignore) lines index st) :
    st.Settled ignore := by
  induction h with
  | start => exact .initial ignore
  | advance before hline hstep ih =>
      obtain ⟨action, hread, hperform⟩ := (step_eq_ok_iff ..).mp hstep
      exact ih.perform (fits_of_readAction hread) hperform

/-! ## Coherence -/

/-- The scope has the variable of the class being read, which has one exactly from its first
constructor on. -/
theorem State.Settled.scope_iff (h : st.Settled ignore) :
    st.scope.varId.isSome = true ↔
      (∃ id, st.current = some (.registered id)) ∨ ∃ c, st.current = some (.detached c) := by
  have hcurrent := h.current
  unfold State.scope State.currentClass?
  cases hstage : st.current with
  | none => simp
  | some current =>
      have hsettled := hcurrent current hstage
      cases current with
      | declared c =>
          have hvarId : c.varId = none := by rw [show c = _ from hsettled]
          simp [hvarId]
      | registered id =>
          have hid : id < st.registry.size := hsettled
          obtain ⟨c, hc⟩ := Registry.exists_get? hid
          simp [hc, h.varId id c hc]
      | detached c =>
          obtain ⟨-, varId, hvarId, -⟩ := hsettled
          simp [hvarId]

/-- **Coherence of a run.** Whatever the lines of a dump and the ignore list, the parts of the state
agree between any two steps. -/
theorem coherent_of_boundary (h : Boundary cleaner (State.initial ignore) lines index st) :
    st.Coherent ignore := by
  have hsettled := h.settled
  have hrecorded := h.indexes.2
  -- every class has a variable, which stands for it
  have hvar : ∀ id c, st.registry.get? id = some c →
      ∃ varId, c.varId = some varId ∧ st.registry.findByVar? varId = some id := by
    intro id c hc
    obtain ⟨varId, hvarId⟩ := Option.isSome_iff_exists.mp (hsettled.varId id c hc)
    exact ⟨varId, hvarId, hrecorded.findByVar?_eq hc hvarId⟩
  exact
    { registered := fun id hcurrent => by
        have hid : id < st.registry.size := hsettled.current _ hcurrent
        obtain ⟨c, hc⟩ := Registry.exists_get? hid
        obtain ⟨varId, hvarId, hfound⟩ := hvar id c hc
        exact ⟨hid, c, varId, hc, hvarId, hfound⟩
      declared := fun c hcurrent => hsettled.current _ hcurrent
      detached := fun c hcurrent => hsettled.current _ hcurrent
      scope := hsettled.scope_iff
      kept := hsettled.kept
      single := fun id other c d hc hd heq => by
        obtain ⟨varId, hvarId, hfound⟩ := hvar id c hc
        have hfound' := hrecorded.findByVar?_eq hd (heq ▸ hvarId)
        exact Option.some.inj (hfound.symm.trans hfound') }

/-- After an ignored class, a registered one with two variables: the later one stands for it. -/
theorem coherent_of_boundary_of_ignored_class :
    let lines := ["\t// N.B", "\tvar $B = function() \x7b", "\t\x7d;",
      "\t// N.A", "\tvar $A = function() \x7b", "\t\x7d;",
      "\tvar $A$1 = function(x) \x7b", "\t\x7d;"]
    ∃ st, run {} (.ofList ["N.B"]) lines = .ok st ∧ st.scope.varId.isSome = true ∧
      ∃ c varId, st.registry.get? 0 = some c ∧ c.varId = some varId ∧
        st.registry.findByVar? varId = some 0 ∧
        (IgnoreList.ofList ["N.B"]).contains c.qualifiedName = false := by
  intro lines
  refine exists_ok_and ?accepted fun st accepted => ?coherent
  case accepted => decide +kernel
  case coherent =>
    have hcurrent : (run {} (.ofList ["N.B"]) lines).toOption.map State.current
        = some (some (.registered 0)) := by decide +kernel
    rw [accepted] at hcurrent
    have hregistered : st.current = some (.registered 0) := Option.some.inj hcurrent
    have hcoherent := coherent_of_boundary (boundary_length_iff.mpr accepted)
    obtain ⟨-, c, varId, hc, hvarId, hfound⟩ := hcoherent.registered 0 hregistered
    exact ⟨hcoherent.scope.mpr (.inl ⟨0, hregistered⟩), c, varId, hc, hvarId, hfound,
      hcoherent.kept 0 c hc⟩

end ClassRecovery.Dump
