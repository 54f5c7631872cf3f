import ClassRecovery.Proofs.Dump.Action
import ClassRecovery.Proofs.Model.Registry

/-!
# When an action succeeds

Only a constructor and a bulk call can fail when they are performed. For each of them, the exact
condition of success together with the state it leads to.
-/

set_option autoImplicit false

namespace ClassRecovery.Dump

variable {cleaner : Cleaner} {st next : State} {varId params : String} {body : List String}

/-- The record of a class at its first constructor. -/
def constructed (cleaner : Cleaner) (c : ClassDef) (varId params : String) (body : List String) :
    ClassDef :=
  addConstructor cleaner params body { c with varId := some varId }

/-- The first constructor of an ignored class. -/
theorem registerClass_of_ignored {c : ClassDef} (h : st.ignore.contains c.qualifiedName = true) :
    registerClass cleaner st c varId params body
      = .ok { st with
          current := some (.detached (constructed cleaner c varId params body)),
          ignore := st.ignore.insert varId } :=
  if_pos h

/-- The first constructor of a class that is not ignored. -/
theorem registerClass_of_kept {c : ClassDef} (h : st.ignore.contains c.qualifiedName = false) :
    registerClass cleaner st c varId params body
      = ((st.registry.insert (constructed cleaner c varId params body)).mapError .registry).map
          fun (id, registry) =>
            { st with current := some (.registered id), registry := registry } := by
  have hrecord : addConstructor cleaner params body { c with varId := some varId }
      = constructed cleaner c varId params body := rfl
  have hkept : st.ignore.contains (constructed cleaner c varId params body).qualifiedName = false :=
    h
  unfold registerClass
  dsimp only
  rw [hrecord, hkept, if_neg Bool.false_ne_true]
  cases st.registry.insert (constructed cleaner c varId params body) <;> rfl

/-- The first constructor of a class that is not ignored: its variable must be free. -/
theorem registerClass_eq_ok_iff {c : ClassDef} (h : st.ignore.contains c.qualifiedName = false) :
    registerClass cleaner st c varId params body = .ok next ↔
      st.registry.findByVar? varId = none ∧
        next = { st with
          current := some (.registered st.registry.size),
          registry := st.registry.append (constructed cleaner c varId params body) } := by
  rw [registerClass_of_kept h, map_eq_ok_iff]
  simp only [mapError_eq_ok_iff]
  constructor
  · rintro ⟨⟨id, registry⟩, hinsert, rfl⟩
    obtain ⟨hfree, rfl, rfl⟩ := Registry.insert_eq_ok_iff.mp hinsert
    exact ⟨hfree varId rfl, rfl⟩
  · rintro ⟨hfree, rfl⟩
    have hvar : ∀ v, (constructed cleaner c varId params body).varId = some v →
        st.registry.findByVar? v = none := fun v hv => by
      cases hv
      exact hfree
    exact ⟨_, Registry.insert_eq_ok_iff.mpr ⟨hvar, rfl, rfl⟩, rfl⟩

/-- One more constructor of a registered class. -/
theorem extendClass_eq {id : Nat} :
    extendClass cleaner st id varId params body
      = ((st.registry.bindVar id varId).mapError .registry).map
          fun registry =>
            { st with registry := registry.modify id (addConstructor cleaner params body) } := by
  unfold extendClass
  cases st.registry.bindVar id varId <;> rfl

/-- One more constructor of a registered class: its variable must be free or its own. -/
theorem extendClass_eq_ok_iff {id : Nat} :
    extendClass cleaner st id varId params body = .ok next ↔
      id < st.registry.size ∧
        (∀ existing, st.registry.findByVar? varId = some existing → existing = id) ∧
        next = { st with
          registry := st.registry.rebind id varId
            fun c => constructed cleaner c varId params body } := by
  have hrebind : (Registry.bindVar.bound id varId st.registry).modify id
      (addConstructor cleaner params body)
        = st.registry.rebind id varId fun c => constructed cleaner c varId params body :=
    Registry.modify_bound st.registry id varId _
  rw [extendClass_eq, map_eq_ok_iff, ← hrebind]
  simp only [mapError_eq_ok_iff]
  constructor
  · rintro ⟨registry, hbind, rfl⟩
    obtain ⟨hlt, hown, rfl⟩ := Registry.bindVar_eq_ok_iff.mp hbind
    exact ⟨hlt, hown, rfl⟩
  · rintro ⟨hlt, hown, rfl⟩
    exact ⟨_, Registry.bindVar_eq_ok_iff.mpr ⟨hlt, hown, rfl⟩, rfl⟩

theorem modifyCurrent_ignore (st : State) (f : ClassDef → ClassDef) :
    (st.modifyCurrent f).ignore = st.ignore := by
  unfold State.modifyCurrent
  split <;> rfl

/-- The class being read is not in the registry. -/
def State.KeepsApart (st : State) (c : ClassDef) : Prop :=
  st.current = some (.declared c) ∨ st.current = some (.detached c)

/-- What becomes of a state at a constructor that succeeds. -/
inductive Constructs (cleaner : Cleaner) (varId params : String) (body : List String)
    (st : State) : State → Prop
  | nothing (hcurrent : st.current = none) : Constructs cleaner varId params body st st
  | detached {c : ClassDef} (apart : st.KeepsApart c)
      (hignored : st.ignore.contains c.qualifiedName = true) :
      Constructs cleaner varId params body st
        { st with
          current := some (.detached (constructed cleaner c varId params body)),
          ignore := st.ignore.insert varId }
  | registered {c : ClassDef} (apart : st.KeepsApart c)
      (hkept : st.ignore.contains c.qualifiedName = false)
      (hfree : st.registry.findByVar? varId = none) :
      Constructs cleaner varId params body st
        { st with
          current := some (.registered st.registry.size),
          registry := st.registry.append (constructed cleaner c varId params body) }
  | extended {id : Nat} (hcurrent : st.current = some (.registered id))
      (hid : id < st.registry.size)
      (hown : ∀ existing, st.registry.findByVar? varId = some existing → existing = id) :
      Constructs cleaner varId params body st
        { st with
          registry := st.registry.rebind id varId
            fun c => constructed cleaner c varId params body }

theorem registerClass_constructs {c : ClassDef} (apart : st.KeepsApart c)
    (h : registerClass cleaner st c varId params body = .ok next) :
    Constructs cleaner varId params body st next := by
  cases hignored : st.ignore.contains c.qualifiedName with
  | true =>
      rw [registerClass_of_ignored hignored] at h
      cases h
      exact .detached apart hignored
  | false =>
      obtain ⟨hfree, rfl⟩ := (registerClass_eq_ok_iff hignored).mp h
      exact .registered apart hignored hfree

theorem performConstructor_constructs
    (h : performConstructor cleaner st varId params body = .ok next) :
    Constructs cleaner varId params body st next := by
  unfold performConstructor at h
  match hcurrent : st.current with
  | none =>
      rw [hcurrent] at h
      cases h
      exact .nothing hcurrent
  | some (.declared c) =>
      rw [hcurrent] at h
      exact registerClass_constructs (.inl hcurrent) h
  | some (.detached c) =>
      rw [hcurrent] at h
      exact registerClass_constructs (.inr hcurrent) h
  | some (.registered id) =>
      rw [hcurrent] at h
      obtain ⟨hid, hown, rfl⟩ := extendClass_eq_ok_iff.mp h
      exact .extended hcurrent hid hown

/-- A bulk call: its variable stands for no class, or the change can be read. -/
theorem perform_bulk_eq_ok_iff {change : Except Error BulkChange} :
    perform cleaner st (.bulk varId change) = .ok next ↔
      (st.registry.findByVar? varId = none ∧ next = st) ∨
        ∃ id bulk, st.registry.findByVar? varId = some id ∧ change = .ok bulk ∧
          next = { st with
            registry := st.registry.modify id fun c => bulk.apply st.ignore cleaner c } := by
  show onClass st varId (change.map fun change c => change.apply st.ignore cleaner c) = .ok next ↔ _
  unfold onClass
  cases hfound : st.registry.findByVar? varId with
  | none => simp [eq_comm]
  | some id =>
      cases change with
      | error failure => simp [Except.map, Functor.map]
      | ok bulk =>
          constructor
          · intro h
            cases h
            exact .inr ⟨id, bulk, rfl, rfl, rfl⟩
          · rintro (⟨hnone, -⟩ | ⟨_, _, hid, hbulk, rfl⟩)
            · cases hnone
            · cases hid; cases hbulk; rfl

end ClassRecovery.Dump
