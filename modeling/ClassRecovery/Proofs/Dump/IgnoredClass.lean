import ClassRecovery.Extraction
import ClassRecovery.Proofs.Dump.Growth
import ClassRecovery.Proofs.Dump.Identity
import ClassRecovery.Proofs.Dump.IgnoreList
import ClassRecovery.Proofs.Model.Restriction

/-!
# Ignoring one more class

To ignore one more class is to delete it: the dump is still read, and the model loses the classes
of that name and some global statements, but nothing else changes (`recover_insert`).

The two runs go side by side. `State.Deletes q st st'` relates their states at a boundary: `st'`
has the classes of `st` but for those named `q`, ignores at least what `st` does, and is reading the
same class, which it keeps apart from the registry if it is named `q`. Related states have one
scope, so both runs read the same action, and every action keeps them related.
-/

set_option autoImplicit false

namespace ClassRecovery

namespace Dump

/-! ## Related states -/

/-- The classes that two related runs are reading. -/
inductive CurrentDeletes (q : String) (r : Registry) : Option Current → Option Current → Prop
  | none : CurrentDeletes q r none none
  | declared {c : ClassDef} (named : c.space ≠ "") :
      CurrentDeletes q r (some (.declared c)) (some (.declared c))
  | detached {c : ClassDef} (named : c.space ≠ "") :
      CurrentDeletes q r (some (.detached c)) (some (.detached c))
  /-- A registered class with another name has moved to its rank. -/
  | kept {id place : Nat} (hrank : r.rank? (ClassDef.isOther q) id = some place) :
      CurrentDeletes q r (some (.registered id)) (some (.registered place))
  /-- A registered class named `q` is detached in the other run. -/
  | deleted {id : Nat} {c d : ClassDef} (hc : r.get? id = some c) (hname : c.qualifiedName = q)
      (named : d.space ≠ "") (hd : d.qualifiedName = q) (hvar : d.varId = c.varId) :
      CurrentDeletes q r (some (.registered id)) (some (.detached d))

/-- The second state is the first one without the classes named `q`. -/
structure State.Deletes (q : String) (st st' : State) : Prop where
  registry : st.registry.Restricts (ClassDef.isOther q) st'.registry
  current : CurrentDeletes q st.registry st.current st'.current
  ignore : IgnoreList.Adds q st.ignore st'.ignore
  /-- A variable that stands for no class any more is ignored. -/
  varsIgnored : ∀ varId id, st.registry.findByVar? varId = some id →
    st.registry.rank? (ClassDef.isOther q) id = none → varId ≠ "" →
      st'.ignore.contains varId = true
  globals : st'.globals.Sublist st.globals
  assembly : st'.assembly = st.assembly

variable {q : String} {r s : Registry} {current current' : Option Current} {cleaner : Cleaner}
  {st st' next : State} {f : ClassDef → ClassDef} {id place : Nat} {c : ClassDef}

/-- Related states are classified alike. -/
theorem State.Deletes.scope_eq (h : st.Deletes q st') : st'.scope = st.scope := by
  have hcurrent := h.current
  unfold State.scope State.currentClass?
  generalize st.current = current at hcurrent ⊢
  generalize st'.current = current' at hcurrent ⊢
  cases hcurrent with
  | none | declared | detached => rfl
  | kept hrank =>
      dsimp only
      rw [h.registry.get?_of_rank? hrank]
      rfl
  | deleted hc hname named hd hvar =>
      -- the records differ, but both have the variable of the last constructor
      dsimp only
      rw [hc, Option.bind_some, Option.bind_some, hvar]
      rfl

/-! ## Changing a record -/

theorem CurrentDeletes.modify (h : CurrentDeletes q r current current')
    (hf : ClassDef.KeepsIdentity f) (id : Nat) :
    CurrentDeletes q (r.modify id f) current current' := by
  cases h with
  | none => exact .none
  | declared named => exact .declared named
  | detached named => exact .detached named
  | kept hrank => exact .kept (by rw [Registry.rank?_modify (hf.isOther q), hrank])
  | @deleted place c d hc hname named hd hvar =>
      by_cases hid : id = place
      · have hchanged : (r.modify id f).get? place = some (f c) := by
          rw [Registry.get?_modify, hc, Option.map_some, if_pos hid]
        refine .deleted hchanged ?_ named hd ?_
        · rw [hf.qualifiedName, hname]
        · rw [hvar, (hf c).2.2]
      · have hsame : (r.modify id f).get? place = some c := by
          rw [Registry.get?_modify, hc, Option.map_some, if_neg hid]
        exact .deleted hsame hname named hd hvar

/-- A registered class is changed in both runs, or in the first one only if it is named `q`. -/
theorem State.Deletes.modify (h : st.Deletes q st') (hf : ClassDef.KeepsIdentity f)
    (hid : id < st.registry.size) :
    State.Deletes q { st with registry := st.registry.modify id f }
      { st' with
        registry := (st.registry.rank? (ClassDef.isOther q) id).elim st'.registry
          fun place => st'.registry.modify place f } where
  registry := h.registry.modify (hf.isOther q) hid
  current := h.current.modify hf id
  ignore := h.ignore
  varsIgnored := fun varId place hplace hleft => by
    rw [Registry.rank?_modify (hf.isOther q)] at hleft
    exact h.varsIgnored varId place hplace hleft
  globals := h.globals
  assembly := h.assembly

/-- The class being read is changed in both runs, wherever it is kept. -/
theorem State.Deletes.modifyCurrent (h : st.Deletes q st') (hf : ClassDef.KeepsIdentity f) :
    (st.modifyCurrent f).Deletes q (st'.modifyCurrent f) := by
  have hcurrent := h.current
  generalize hst : st.current = current at hcurrent
  generalize hst' : st'.current = current' at hcurrent
  simp only [State.modifyCurrent, hst, hst']
  cases hcurrent with
  | none => exact h
  | @declared c named =>
      have hspace : (f c).space ≠ "" := by rwa [(hf c).1]
      exact ⟨h.registry, .declared hspace, h.ignore, h.varsIgnored, h.globals, h.assembly⟩
  | @detached c named =>
      have hspace : (f c).space ≠ "" := by rwa [(hf c).1]
      exact ⟨h.registry, .detached hspace, h.ignore, h.varsIgnored, h.globals, h.assembly⟩
  | kept hrank =>
      obtain ⟨c, hc, -, -⟩ := Registry.kept_of_rank? hrank
      have hmodify := h.modify hf (Registry.get?_eq_some_lt hc)
      rwa [hrank, hst, hst'] at hmodify
  | @deleted id c d hc hname named hd hvar =>
      -- one run changes the record in its registry, the other one the detached class
      have hmodify := h.modify hf (Registry.get?_eq_some_lt hc)
      rw [Registry.rank?_of_left hc (ClassDef.isOther_eq_false.mpr hname)] at hmodify
      refine ⟨hmodify.registry, ?_, h.ignore, hmodify.varsIgnored, h.globals, h.assembly⟩
      have hspace : (f d).space ≠ "" := by rwa [(hf d).1]
      have hchanged : (st.registry.modify id f).get? id = some (f c) := by
        rw [Registry.get?_modify, hc, Option.map_some, if_pos rfl]
      refine .deleted hchanged (by rw [hf.qualifiedName, hname]) hspace ?_ ?_
      · rw [hf.qualifiedName, hd]
      · rw [(hf d).2.2, (hf c).2.2, hvar]

/-! ## Constructors -/

section Constructors

variable {varId params : String} {body : List String}

/-- A variable that stands for nothing in one run stands for nothing in the other. -/
theorem State.Deletes.findByVar?_eq_none (h : st.Deletes q st')
    (hfree : st.registry.findByVar? varId = none) : st'.registry.findByVar? varId = none := by
  rw [h.registry.vars, hfree]
  rfl

/-- A class is ignored in both runs. -/
theorem State.Deletes.detach (h : st.Deletes q st') (named : c.space ≠ "") (varId : String) :
    State.Deletes q { st with current := some (.detached c), ignore := st.ignore.insert varId }
      { st' with current := some (.detached c), ignore := st'.ignore.insert varId } where
  registry := h.registry
  current := .detached named
  ignore := by
    dsimp only
    exact h.ignore.insert_both varId
  varsIgnored := fun other id hother hleft hne => by
    dsimp only
    exact IgnoreList.contains_insert_of_contains (h.varsIgnored other id hother hleft hne)
  globals := h.globals
  assembly := h.assembly

/-- A class with another name is registered in both runs. -/
theorem State.Deletes.register (h : st.Deletes q st') (hother : c.qualifiedName ≠ q)
    (hfree : ∀ v, c.varId = some v → st.registry.findByVar? v = none) :
    State.Deletes q
      { st with
        current := some (.registered st.registry.size), registry := st.registry.append c }
      { st' with
        current := some (.registered st'.registry.size), registry := st'.registry.append c } where
  registry := by
    have happend := h.registry.append hfree
    rwa [if_pos (ClassDef.isOther_eq_true.mpr hother)] at happend
  current := .kept (h.registry.rank?_append_size (ClassDef.isOther_eq_true.mpr hother))
  ignore := h.ignore
  varsIgnored := fun other id hfound hleft hne => by
    rw [Registry.findByVar?_append] at hfound
    split at hfound
    · -- the new class is not left out
      cases hfound
      rw [h.registry.rank?_append_size (ClassDef.isOther_eq_true.mpr hother)] at hleft
      cases hleft
    · rw [Registry.rank?_append (h.registry.inRange other id hfound)] at hleft
      exact h.varsIgnored other id hfound hleft hne
  globals := h.globals
  assembly := h.assembly

/-- A class named `q` is registered in one run and detached in the other, which ignores its
variable from now on. -/
theorem State.Deletes.register_deleted (h : st.Deletes q st') (hname : c.qualifiedName = q)
    (named : c.space ≠ "") (hvar : c.varId = some varId) (hplain : isPlain varId = true)
    (hfree : ∀ v, c.varId = some v → st.registry.findByVar? v = none) :
    State.Deletes q
      { st with
        current := some (.registered st.registry.size), registry := st.registry.append c }
      { st' with current := some (.detached c), ignore := st'.ignore.insert varId } where
  registry := by
    have happend := h.registry.append hfree
    rwa [if_neg (by rw [ClassDef.isOther_eq_false.mpr hname]; exact Bool.false_ne_true)] at happend
  current := .deleted Registry.get?_append_size hname named hname rfl
  ignore := by
    dsimp only
    exact h.ignore.insert_plain hplain
  varsIgnored := fun other id hfound hleft hne => by
    dsimp only at hfound hleft ⊢
    rw [Registry.findByVar?_append, hvar] at hfound
    split_ifs at hfound with hsame
    · cases hsame
      exact IgnoreList.contains_insert_iff.mpr (.inr ⟨(trimmed_of_isPlain hplain).symm, hne⟩)
    · rw [Registry.rank?_append (h.registry.inRange other id hfound)] at hleft
      exact IgnoreList.contains_insert_of_contains (h.varsIgnored other id hfound hleft hne)
  globals := h.globals
  assembly := h.assembly

/-- The constructor of a class that is not registered yet. -/
theorem registerClass_deletes (h : st.Deletes q st') (named : c.space ≠ "")
    (hplain : c.qualifiedName = q → isPlain varId = true)
    (hregister : registerClass cleaner st c varId params body = .ok next) :
    ∃ next', registerClass cleaner st' c varId params body = .ok next' ∧ next.Deletes q next' := by
  have hnamed : (constructed cleaner c varId params body).space ≠ "" := named
  cases hignored : st.ignore.contains c.qualifiedName with
  | true =>
      have hignored' := h.ignore.known _ hignored
      rw [registerClass_of_ignored hignored] at hregister
      cases hregister
      exact ⟨_, registerClass_of_ignored hignored', h.detach hnamed varId⟩
  | false =>
      obtain ⟨hvar, rfl⟩ := (registerClass_eq_ok_iff hignored).mp hregister
      have hfree : ∀ v, (constructed cleaner c varId params body).varId = some v →
          st.registry.findByVar? v = none := fun v hv => by
        cases hv
        exact hvar
      by_cases hname : c.qualifiedName = q
      · have hignored' : st'.ignore.contains c.qualifiedName = true := by
          rw [hname]
          exact h.ignore.named (hname ▸ ClassDef.qualifiedName_ne named)
        exact ⟨_, registerClass_of_ignored hignored',
          h.register_deleted hname hnamed rfl (hplain hname) hfree⟩
      · have hignored' : st'.ignore.contains c.qualifiedName = false := by
          rw [h.ignore.contains_qualifiedName named hname, hignored]
        exact ⟨_, (registerClass_eq_ok_iff hignored').mpr ⟨h.findByVar?_eq_none hvar, rfl⟩,
          h.register hname hfree⟩

/-- A registered class with another name gets one more variable in both runs. -/
theorem State.Deletes.rebind (h : st.Deletes q st') (hst : st.current = some (.registered id))
    (hst' : st'.current = some (.registered place))
    (hrank : st.registry.rank? (ClassDef.isOther q) id = some place) (hid : id < st.registry.size)
    (hf : ∀ c, (f c).isOther q = c.isOther q)
    (hown : ∀ existing, st.registry.findByVar? varId = some existing → existing = id) :
    State.Deletes q { st with registry := st.registry.rebind id varId f }
      { st' with registry := st'.registry.rebind place varId f } where
  registry := by
    have hrebind := h.registry.rebind hf hid hown
    rwa [hrank] at hrebind
  current := by
    dsimp only
    rw [hst, hst']
    exact .kept (by rw [Registry.rank?_rebind hf, hrank])
  ignore := h.ignore
  varsIgnored := fun other existing hfound hleft hne => by
    dsimp only at hfound hleft
    rw [Registry.rank?_rebind hf] at hleft
    rw [Registry.findByVar?_rebind] at hfound
    split at hfound
    · -- the class is not left out
      cases hfound
      rw [hrank] at hleft
      cases hleft
    · exact h.varsIgnored other existing hfound hleft hne
  globals := h.globals
  assembly := h.assembly

/-- A class named `q` gets one more variable in one run; the other one ignores it. -/
theorem State.Deletes.rebind_deleted {d : ClassDef} (h : st.Deletes q st')
    (hst : st.current = some (.registered id)) (hc : st.registry.get? id = some c)
    (hname : c.qualifiedName = q) (named : d.space ≠ "") (hd : d.qualifiedName = q)
    (hf : ∀ c, (f c).qualifiedName = c.qualifiedName ∧ (f c).space = c.space ∧
      (f c).varId = some varId)
    (hplain : isPlain varId = true)
    (hown : ∀ existing, st.registry.findByVar? varId = some existing → existing = id) :
    State.Deletes q { st with registry := st.registry.rebind id varId f }
      { st' with current := some (.detached (f d)), ignore := st'.ignore.insert varId } := by
  have hother : ∀ e, (f e).isOther q = e.isOther q := fun e => by
    simp only [ClassDef.isOther, (hf e).1]
  constructor
  case registry =>
    have hrebind := h.registry.rebind hother (Registry.get?_eq_some_lt hc) hown
    rwa [Registry.rank?_of_left hc (ClassDef.isOther_eq_false.mpr hname)] at hrebind
  case current =>
    have hchanged : (st.registry.rebind id varId f).get? id = some (f c) := by
      rw [Registry.get?_rebind, hc, Option.map_some, if_pos rfl]
    dsimp only
    rw [hst]
    refine .deleted hchanged ?_ ?_ ?_ ?_
    · rw [(hf c).1, hname]
    · rwa [(hf d).2.1]
    · rw [(hf d).1, hd]
    · rw [(hf d).2.2, (hf c).2.2]
  case ignore =>
    dsimp only
    exact h.ignore.insert_plain hplain
  case varsIgnored =>
    intro other existing hfound hleft hne
    dsimp only at hfound hleft ⊢
    rw [Registry.rank?_rebind hother] at hleft
    rw [Registry.findByVar?_rebind] at hfound
    split_ifs at hfound with hsame
    · subst hsame
      exact IgnoreList.contains_insert_iff.mpr (.inr ⟨(trimmed_of_isPlain hplain).symm, hne⟩)
    · exact IgnoreList.contains_insert_of_contains
        (h.varsIgnored other existing hfound hleft hne)
  case globals => exact h.globals
  case assembly => exact h.assembly

/-- A constructor, whatever class is being read. -/
theorem performConstructor_deletes (h : st.Deletes q st')
    (hplain : st.currentClass?.map ClassDef.qualifiedName = some q → isPlain varId = true)
    (hperform : performConstructor cleaner st varId params body = .ok next) :
    ∃ next', performConstructor cleaner st' varId params body = .ok next' ∧
      next.Deletes q next' := by
  have hcurrent := h.current
  generalize hst : st.current = current at hcurrent
  generalize hst' : st'.current = current' at hcurrent
  simp only [performConstructor, hst] at hperform
  simp only [performConstructor, hst']
  simp only [State.currentClass?, hst] at hplain
  cases hcurrent with
  | none =>
      cases hperform
      exact ⟨st', rfl, h⟩
  | declared named | detached named =>
      refine registerClass_deletes h named (fun hname => hplain ?_) hperform
      rw [Option.map_some, hname]
  | @kept id place hrank =>
      obtain ⟨hid, hown, rfl⟩ := extendClass_eq_ok_iff.mp hperform
      obtain ⟨c, hc, -, -⟩ := Registry.kept_of_rank? hrank
      have hplace : place < st'.registry.size :=
        Registry.get?_eq_some_lt ((h.registry.get?_of_rank? hrank).trans hc)
      refine ⟨_, extendClass_eq_ok_iff.mpr ⟨hplace, h.registry.own hrank hown, rfl⟩, ?_⟩
      exact h.rebind hst hst' hrank hid (fun _ => rfl) hown
  | @deleted id c d hc hname named hd hvar =>
      -- one run extends the class, the other one reads it as a class that is ignored
      obtain ⟨-, hown, rfl⟩ := extendClass_eq_ok_iff.mp hperform
      have hvarId : isPlain varId = true := hplain (by simp only [hc, Option.map_some, hname])
      have hignored : st'.ignore.contains d.qualifiedName = true := by
        rw [hd]
        exact h.ignore.named (hd ▸ ClassDef.qualifiedName_ne named)
      refine ⟨_, registerClass_of_ignored hignored, ?_⟩
      exact h.rebind_deleted hst hc hname named hd (fun _ => ⟨rfl, rfl, rfl⟩) hvarId hown

end Constructors

/-! ## Members -/

section Members

variable (h : st.Deletes q st') (hq : ':' ∉ q.toList)

include h hq

theorem State.Deletes.addStaticMethod_eq (member : String) (parts : FunctionParts) :
    addStaticMethod st'.ignore cleaner member parts
      = addStaticMethod st.ignore cleaner member parts := by
  funext c
  unfold addStaticMethod
  rw [h.ignore.contains_memberKey hq]

theorem State.Deletes.bulkChange_eq (change : BulkChange) (c : ClassDef) :
    change.apply st'.ignore cleaner c = change.apply st.ignore cleaner c := by
  have hmembers (members : List Member) :
      addMembers st'.ignore cleaner members c = addMembers st.ignore cleaner members c := by
    unfold addMembers
    simp only [h.ignore.contains_memberKey hq]
  cases change with
  | classMembers | interfaceMembers | enumMembers => simp only [BulkChange.apply, hmembers]
  | arity => rfl

theorem addStaticProperty_deletes (member value : String) :
    (addStaticProperty st member value).Deletes q (addStaticProperty st' member value) := by
  unfold addStaticProperty
  simp only [h.ignore.contains_memberKey hq]
  refine h.modifyCurrent fun c => ?_
  split <;> exact ⟨rfl, rfl, rfl⟩

/-- A bulk call on a class that is left out is one on an unknown variable in the other run. -/
theorem performBulk_deletes {varId : String} {change : Except Error BulkChange}
    (hperform : perform cleaner st (.bulk varId change) = .ok next) :
    ∃ next', perform cleaner st' (.bulk varId change) = .ok next' ∧ next.Deletes q next' := by
  rcases perform_bulk_eq_ok_iff.mp hperform with ⟨hfree, rfl⟩ | ⟨id, bulk, hfound, rfl, rfl⟩
  · exact ⟨st', perform_bulk_eq_ok_iff.mpr (.inl ⟨h.findByVar?_eq_none hfree, rfl⟩), h⟩
  · have hmodify := h.modify (bulkChange_keepsIdentity st.ignore cleaner bulk)
      (h.registry.inRange varId id hfound)
    have hfound' := h.registry.vars varId
    rw [hfound, Option.bind_some] at hfound'
    cases hrank : st.registry.rank? (ClassDef.isOther q) id with
    | none =>
        rw [hrank] at hmodify hfound'
        exact ⟨st', perform_bulk_eq_ok_iff.mpr (.inl ⟨hfound', rfl⟩), hmodify⟩
    | some place =>
        rw [hrank] at hmodify hfound'
        refine ⟨_, perform_bulk_eq_ok_iff.mpr (.inr ⟨place, bulk, hfound', rfl, rfl⟩), ?_⟩
        simp only [h.bulkChange_eq hq bulk]
        exact hmodify

end Members

/-! ## Initializer blocks -/

/-- A line declares the same property in a restricted registry if the class is kept. -/
theorem declared?_of_restricts {keep : ClassDef → Bool} (h : r.Restricts keep s) (line : String) :
    declared? s line
      = (declared? r line).bind fun (id, property) => (r.rank? keep id).map (·, property) := by
  have hvars : s.findByVar? = fun varId => (r.findByVar? varId).bind (r.rank? keep) :=
    funext h.vars
  unfold declared?
  rw [hvars]
  cases (InitializerLine.ofLine line).receiver with
  | none => rfl
  | some receiver =>
      rw [Option.bind_some, Option.bind_some]
      cases r.findByVar? receiver with
      | none => rfl
      | some id =>
          rw [Option.bind_some]
          cases (InitializerLine.ofLine line).property? <;>
            cases hrank : r.rank? keep id <;> simp [hrank]

/-- A line that declares a property of a deleted class declares nothing in the other run. -/
theorem State.Deletes.declare (h : st.Deletes q st') (line : String) :
    State.Deletes q { st with registry := declare st.registry line }
      { st' with registry := declare st'.registry line } := by
  unfold Dump.declare
  rw [declared?_of_restricts h.registry line]
  cases hdeclared : declared? st.registry line with
  | none => exact h
  | some declared =>
      obtain ⟨id, property⟩ := declared
      obtain ⟨hreceiver, -⟩ := declared?_eq_some_iff.mp hdeclared
      obtain ⟨receiver, -, hfound⟩ := Option.bind_eq_some_iff.mp hreceiver
      have hidentity : ClassDef.KeepsIdentity (addProperty property) := fun c => ⟨rfl, rfl, rfl⟩
      have hmodify := h.modify hidentity (h.registry.inRange receiver id hfound)
      dsimp only [Option.bind_some]
      cases hrank : st.registry.rank? (ClassDef.isOther q) id with
      | none => rwa [hrank] at hmodify
      | some place => rwa [hrank] at hmodify

theorem State.Deletes.declareAll (h : st.Deletes q st') (lines : List String) :
    State.Deletes q { st with registry := lines.foldl Dump.declare st.registry }
      { st' with registry := lines.foldl Dump.declare st'.registry } := by
  induction lines generalizing st st' with
  | nil => exact h
  | cons line rest ih => exact ih (h.declare line)

/-- A line that the run with more ignored names records is recorded in the other run: a literal
assigned to a member of a deleted class has an ignored receiver. -/
theorem State.Deletes.isRecorded (h : st.Deletes q st') (line : String)
    (hrecorded : isRecorded st'.ignore st'.registry line = true) :
    isRecorded st.ignore st.registry line = true := by
  unfold Dump.isRecorded at hrecorded ⊢
  rw [Bool.and_eq_true, Bool.not_eq_true', Bool.not_eq_true'] at hrecorded ⊢
  obtain ⟨hreceiver, hliteral⟩ := hrecorded
  constructor
  · cases hline : (InitializerLine.ofLine line).receiver with
    | none => rfl
    | some receiver =>
        rw [hline, Option.any_some] at hreceiver
        exact IgnoreList.contains_eq_false h.ignore.known hreceiver
  · unfold assignsLiteral at hliteral ⊢
    cases hline : InitializerLine.ofLine line with
    | literal receiver member value =>
        rw [hline] at hliteral hreceiver
        dsimp only at hliteral ⊢
        cases hfound : st.registry.findByVar? receiver with
        | none => rfl
        | some id =>
            -- no class takes the line in the other run, so that class is left out there
            rw [h.registry.vars, hfound, Option.bind_some] at hliteral
            have hleft : st.registry.rank? (ClassDef.isOther q) id = none := by simpa using hliteral
            have hne : receiver ≠ "" := receiver_ne (by rw [hline]; rfl)
            have hignored := h.varsIgnored receiver id hfound hleft hne
            rw [show st'.ignore.contains receiver = false from hreceiver] at hignored
            cases hignored
    | _ => rfl

/-! ## Actions -/

/-- Global statements are recorded in both runs, or in the first one only. -/
theorem State.Deletes.addGlobals (h : st.Deletes q st') {lines lines' : List String}
    (hlines : lines'.Sublist lines) :
    (st.addGlobals lines).Deletes q (st'.addGlobals lines') where
  registry := h.registry
  current := h.current
  ignore := h.ignore
  varsIgnored := h.varsIgnored
  globals := h.globals.append hlines
  assembly := h.assembly

theorem addGlobalAssignment_deletes (h : st.Deletes q st') (line target value : String) :
    (addGlobalAssignment cleaner st line target value).Deletes q
      (addGlobalAssignment cleaner st' line target value) := by
  unfold addGlobalAssignment
  by_cases hignored : (st.ignore.contains target || st.ignore.contains value) = true
  · have hignored' : (st'.ignore.contains target || st'.ignore.contains value) = true := by
      rw [Bool.or_eq_true] at hignored ⊢
      exact hignored.imp (h.ignore.known target) (h.ignore.known value)
    rw [if_pos hignored, if_pos hignored']
    exact h
  · rw [if_neg hignored]
    -- the other run may ignore the assignment all the same
    split
    · have hnone := h.addGlobals (List.nil_sublist [cleaner.clean line])
      simpa [State.addGlobals] using hnone
    · exact h.addGlobals (List.Sublist.refl _)

/-- **One step of the two runs.** An action that succeeds in the first run succeeds in the other
one and keeps the states related, if it names no class without a namespace and binds only plain
variables to classes named `q`. -/
theorem perform_deletes {action : Action} (h : st.Deletes q st') (hq : ':' ∉ q.toList)
    (hnamed : ∀ c, action = .className c → c.space ≠ "")
    (hplain : ∀ varId params body, action = .constructor varId params body →
      st.currentClass?.map ClassDef.qualifiedName = some q → isPlain varId = true)
    (hperform : perform cleaner st action = .ok next) :
    ∃ next', perform cleaner st' action = .ok next' ∧ next.Deletes q next' := by
  cases action with
  | nothing =>
      cases hperform
      exact ⟨st', rfl, h⟩
  | assignment line target value =>
      cases hperform
      exact ⟨_, rfl, addGlobalAssignment_deletes h line target value⟩
  | block lines =>
      cases hperform
      exact ⟨_, rfl, h.addGlobals (List.Sublist.refl _)⟩
  | assembly name =>
      cases hperform
      exact ⟨_, rfl, h.registry, h.current, h.ignore, h.varsIgnored, h.globals, rfl⟩
  | separator =>
      cases hperform
      exact ⟨_, rfl, h.registry, .none, h.ignore, h.varsIgnored, h.globals, h.assembly⟩
  | className c =>
      cases hperform
      exact ⟨_, rfl, h.registry, .declared (hnamed c rfl), h.ignore, h.varsIgnored, h.globals,
        h.assembly⟩
  | constructor varId params body =>
      exact performConstructor_deletes h (hplain varId params body rfl) hperform
  | staticMethod member parts =>
      cases hperform
      refine ⟨_, rfl, ?_⟩
      rw [h.addStaticMethod_eq hq]
      exact h.modifyCurrent (addStaticMethod_keepsIdentity st.ignore cleaner member parts)
  | staticProperty member value =>
      cases hperform
      exact ⟨_, rfl, addStaticProperty_deletes h hq member value⟩
  | bulk varId change => exact performBulk_deletes h hq hperform
  | initializer lines =>
      rw [perform_initializer_eq] at hperform ⊢
      cases hperform
      refine ⟨_, rfl, (h.declareAll lines).addGlobals ?_⟩
      refine List.Sublist.cons_cons "" (List.Sublist.map _ ?_)
      exact List.monotone_filter_right lines h.isRecorded

/-! ## Runs -/

/-- A constructor that is read here for a class named `q` binds a plain variable. -/
def Visit.bindsPlainly (q : String) (v : Visit) : Bool :=
  match v.shape with
  | some (.constructor varId _) =>
    v.state.currentClass?.map ClassDef.qualifiedName != some q || isPlain varId
  | _ => true

theorem State.Deletes.initial (ignore : IgnoreList) (htrimmed : Text.trimmed q = q) :
    (State.initial ignore).Deletes q (State.initial (ignore.insert q)) := by
  have hignore : IgnoreList.Adds q ignore (ignore.insert q) := .insert_name ignore htrimmed
  generalize ignore.insert q = larger at hignore
  exact ⟨.empty _, .none, hignore, fun _ _ hfound => by (cases hfound), .refl _, rfl⟩

/-- Wherever the first run comes, the other run comes in a related state. -/
theorem Boundary.deletes {ignore : IgnoreList} {lines : List String} {index : Nat}
    (h : Boundary cleaner (State.initial ignore) lines index st)
    (htrimmed : Text.trimmed q = q) (hq : ':' ∉ q.toList)
    (hplain : ∀ v ∈ visits cleaner ignore lines, v.bindsPlainly q = true) :
    ∃ st', Boundary cleaner (State.initial (ignore.insert q)) lines index st' ∧
      st.Deletes q st' := by
  induction h with
  | start => exact ⟨_, .start, .initial ignore htrimmed⟩
  | @advance index read st next line rest before hline hstep ih =>
      obtain ⟨st', hboundary, hdeletes⟩ := ih
      obtain ⟨action, hread, hperform⟩ := (step_eq_ok_iff cleaner st index line rest).mp hstep
      obtain ⟨shape, hshape, hopened⟩ := exists_openedBy_of_readAction hread
      obtain ⟨next', hperform', hnext⟩ :
          ∃ next', perform cleaner st' action = .ok next' ∧ next.Deletes q next' := by
        refine perform_deletes hdeletes hq ?_ ?_ hperform
        · rintro c rfl
          obtain ⟨qualified, -, hclass⟩ := hopened
          exact ClassDef.space_ne_of_ofQualified? hclass
        · rintro varId params body rfl hcurrent
          obtain rfl := hopened
          have hvisit := hplain ⟨st, index, line, rest⟩ (mem_visits_iff.mpr ⟨before, hline⟩)
          have hv : (Visit.mk st index line rest).shape = some (.constructor varId params) := hshape
          rw [Visit.bindsPlainly, hv] at hvisit
          simpa [hcurrent] using hvisit
      -- the scopes are equal, so the other run reads the same action
      rw [← hdeletes.scope_eq] at hread
      have hstep' := (step_eq_ok_iff cleaner st' index line rest).mpr ⟨action, hread, hperform'⟩
      exact ⟨next', hboundary.advance hline hstep', hnext⟩

/-- **Ignoring a class only deletes it.** Let a dump be accepted under an ignore list, and let `q`
be a trimmed name without colons such that classes named `q` bind plain variables only. If `q` is
ignored as well, the dump is still accepted. The assembly keeps its name, the classes are those
whose name is not `q`, in the same order and with the same records, and some of the global
statements are left, in the same order. -/
theorem recover_insert {ignore : IgnoreList} {lines : List String} {model : RecoveredModel}
    (accepted : recover cleaner ignore lines = .ok model)
    (htrimmed : Text.trimmed q = q) (hq : ':' ∉ q.toList)
    (hplain : ∀ v ∈ visits cleaner ignore lines, v.bindsPlainly q = true) :
    ∃ model', recover cleaner (ignore.insert q) lines = .ok model' ∧
      model'.assembly = model.assembly ∧
      model'.registry.classes = model.registry.classes.filter (·.qualifiedName != q) ∧
      model'.globals.Sublist model.globals := by
  obtain ⟨final, hrun, rfl⟩ := map_eq_ok_iff.mp accepted
  obtain ⟨final', hboundary, hdeletes⟩ :=
    (boundary_length_iff.mpr hrun).deletes htrimmed hq hplain
  have hrun' : run cleaner (ignore.insert q) lines = .ok final' :=
    boundary_length_iff.mp hboundary
  exact ⟨final'.model, map_eq_ok_iff.mpr ⟨final', hrun', rfl⟩, hdeletes.assembly,
    hdeletes.registry.classes, hdeletes.globals⟩

/-- Of two classes the first one is ignored; it is registered, and an initializer block is about
it. -/
theorem recover_insert_of_two_classes :
    ∃ model, recover {} {}
        ["\t// N.A", "\tvar $A = function() \x7b", "\t\x7d;", "\t// N.B",
          "\tvar $B = function() \x7b", "\t\x7d;", "\t(function() \x7b", "\t\t$A.items = [];",
          "\t\t$A.start(1);", "\t\x7d)();"] = .ok model ∧
      ∃ model', recover {} (({} : IgnoreList).insert "N.A")
        ["\t// N.A", "\tvar $A = function() \x7b", "\t\x7d;", "\t// N.B",
          "\tvar $B = function() \x7b", "\t\x7d;", "\t(function() \x7b", "\t\t$A.items = [];",
          "\t\t$A.start(1);", "\t\x7d)();"] = .ok model' ∧
        model'.registry.classes = model.registry.classes.filter (·.qualifiedName != "N.A") := by
  refine exists_ok_and (by decide +kernel) fun model accepted => ?_
  obtain ⟨model', hmodel', -, hclasses, -⟩ :=
    recover_insert accepted (by decide +kernel : Text.trimmed "N.A" = "N.A") (by decide +kernel)
      (by decide +kernel)
  exact ⟨model', hmodel', hclasses⟩

end Dump

end ClassRecovery
