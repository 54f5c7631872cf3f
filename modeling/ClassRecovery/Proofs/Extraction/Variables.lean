import ClassRecovery.Extraction
import ClassRecovery.Proofs.Dump.Identity
import ClassRecovery.Proofs.Fusion.Pointwise

/-!
# Variables of a fused model

During a run every variable that a constructor binds stands for its class, but an extraction ends by
computing the indexes from the classes, and a class records only its newest variable. So of the
variables of a class only the last one that the dump binds is found in the fused model
(`findByVar?_of_run`).
-/

set_option autoImplicit false

namespace ClassRecovery.Extraction

open Dump

variable {config : Config} {ignoreText : Option String} {dump : String} {docs : Option String}
  {model fused : RecoveredModel}

/-- The last variable that is bound to the class with this handle. -/
def lastVariable? (bindings : List Binding) (id : Nat) : Option String :=
  (bindings.reverse.find? fun b => b.id == id).map Binding.varId

variable {bound : List Binding} {b : Binding}

theorem exists_lastVariable? (hb : b ∈ bound) :
    ∃ last ∈ bound, last.id = b.id ∧ lastVariable? bound b.id = some last.varId := by
  unfold lastVariable?
  cases hlast : bound.reverse.find? fun other => other.id == b.id with
  | none =>
      have hne := List.find?_eq_none.mp hlast b (List.mem_reverse.mpr hb)
      simp at hne
  | some last =>
      refine ⟨last, List.mem_reverse.mp (List.mem_of_find?_eq_some hlast), ?_, rfl⟩
      simpa using List.find?_some hlast

/-- Every variable is the last one of its class exactly when no class has two. -/
theorem all_lastVariable?_iff :
    (∀ b ∈ bound, lastVariable? bound b.id = some b.varId) ↔
      ∀ b ∈ bound, ∀ other ∈ bound, b.id = other.id → b.varId = other.varId := by
  constructor
  · intro hlast b hb other hother hid
    refine Option.some.inj ?_
    rw [← hlast b hb, ← hlast other hother, hid]
  · intro hsingle b hb
    obtain ⟨last, hmem, hid, hlast⟩ := exists_lastVariable? hb
    rw [hlast, hsingle last hmem b hb hid]

/-! ## Absorbing documentation -/

/-- Documentation changes neither the names nor the variables of classes. -/
theorem absorb_identities (h : absorb model docs = .ok fused) :
    fused.registry.names = model.registry.names ∧ fused.registry.vars = model.registry.vars := by
  cases docs with
  | none =>
      cases h
      exact ⟨rfl, rfl⟩
  | some xml =>
      obtain ⟨documented, -, h⟩ := bind_eq_ok_iff.mp h
      cases h
      have hsame := Fusion.fuse_sameIdentities model.registry documented
      exact ⟨hsame.names, hsame.vars⟩

/-- An extraction recovers the classes of the dump, absorbs the documentation and rebuilds the
indexes. -/
theorem recover_eq_ok_iff :
    recover config ignoreText dump docs = .ok model ↔
      ∃ recovered fused,
        Dump.recover config.cleaner (config.ignoreList ignoreText) (Text.lines dump)
            = .ok recovered ∧
          absorb recovered docs = .ok fused ∧ model = fused.rebuildIndexes := by
  unfold recover
  simp only [bind_eq_ok_iff]
  constructor
  · rintro ⟨recovered, hrecover, fused, habsorb, heq⟩
    cases heq
    exact ⟨recovered, fused, hrecover, habsorb, rfl⟩
  · rintro ⟨recovered, fused, hrecover, habsorb, rfl⟩
    exact ⟨recovered, hrecover, fused, habsorb, rfl⟩

/-- An extraction that succeeds has read the ignore file, if there is one, and recovers the
model. -/
theorem recover_of_run {files : Files Id}
    (accepted : (run files config dump docs).run = Except.ok model) :
    ∃ ignoreText, (readIgnoreFile files config).run = Except.ok ignoreText ∧
      recover config ignoreText dump docs = .ok model := by
  unfold run at accepted
  split at accepted
  · cases accepted
  · rw [ExceptT.run_bind] at accepted
    cases hread : (readIgnoreFile files config).run with
    | error failure =>
        rw [hread] at accepted
        cases accepted
    | ok ignoreText =>
        rw [hread] at accepted
        exact ⟨ignoreText, rfl, accepted⟩

/-! ## Variables that are found -/

theorem newest?_eq_lastVariable? {index : Index}
    (h : index.entries = (bound.map fun b => (b.varId, b.id)).reverse) (id : Nat) :
    index.newest? id = lastVariable? bound id := by
  unfold Index.newest? lastVariable?
  rw [h, ← List.map_reverse, List.find?_map, Option.map_map]
  rfl

/-- What a binding comes to in the fused model. -/
theorem binding_of_recover (accepted : recover config ignoreText dump docs = .ok model)
    (hbound : bound = bindings config.cleaner (config.ignoreList ignoreText) (Text.lines dump))
    (hb : b ∈ bound) :
    (∃ c, model.registry.get? b.id = some c ∧ c.qualifiedName = b.name) ∧
      (model.registry.findByVar? b.varId = some b.id ↔
        lastVariable? bound b.id = some b.varId) := by
  obtain ⟨recovered, fused, hrecover, habsorb, rfl⟩ := recover_eq_ok_iff.mp accepted
  obtain ⟨final, hrun, rfl⟩ := map_eq_ok_iff.mp hrecover
  obtain ⟨hgains, -, hrecorded⟩ := gains_of_run hrun
  obtain ⟨hnames, hvars⟩ := absorb_identities habsorb
  rw [← hbound] at hgains
  constructor
  · have hname : fused.rebuildIndexes.registry.names[b.id]? = some b.name := by
      rw [RecoveredModel.rebuildIndexes, Registry.rebuildIndexes_eq]
      exact (congrArg (·[b.id]?) hnames).trans (hgains.named b hb)
    rwa [Registry.getElem?_names, Option.map_eq_some_iff] at hname
  · rw [← newest?_eq_lastVariable? (hgains.byVar.trans (List.append_nil _))]
    exact hrecorded.findByVar?_rebuildIndexes_iff hvars

/-- **Variables of a fused model.** Every class that a constructor of the dump binds a variable to is
in the model under its handle and its name. The variable stands for it exactly when the dump binds
no other variable to the class later. So all variables stand for their classes exactly when no class
is bound to two. -/
theorem findByVar?_of_run {files : Files Id}
    (accepted : (run files config dump docs).run = Except.ok model) :
    ∃ ignoreText, (readIgnoreFile files config).run = Except.ok ignoreText ∧
      ∃ bound, bound = bindings config.cleaner (config.ignoreList ignoreText) (Text.lines dump) ∧
        (∀ b ∈ bound,
          (∃ c, model.registry.get? b.id = some c ∧ c.qualifiedName = b.name) ∧
            (model.registry.findByVar? b.varId = some b.id ↔
              lastVariable? bound b.id = some b.varId)) ∧
        ((∀ b ∈ bound, model.registry.findByVar? b.varId = some b.id) ↔
          ∀ b ∈ bound, ∀ other ∈ bound, b.id = other.id → b.varId = other.varId) := by
  obtain ⟨ignoreText, hignore, hrecover⟩ := recover_of_run accepted
  refine ⟨ignoreText, hignore, _, rfl, fun b hb => binding_of_recover hrecover rfl hb, ?_⟩
  rw [← all_lastVariable?_iff]
  exact forall₂_congr fun b hb => (binding_of_recover hrecover rfl hb).2

/-- There are no files to read. -/
def noFiles : Files Id where
  readText := fun _ => .error .notFound
  writeText := fun _ _ => .error .notFound

/-- A class with one constructor, and its documentation. -/
theorem findByVar?_of_run_of_one_constructor :
    ∃ model, (run noFiles Config.raw "\t// N.A\n\tvar $A = function() \x7b\n\t\x7d;\n"
        (some ("<d><compounddef kind='class' id='a'><compoundname>N::A</compoundname>"
          ++ "</compounddef></d>"))).run = Except.ok model ∧
      model.registry.findByVar? "$A" = some 0 := by
  refine exists_ok_and ?accepted fun model accepted => ?found
  case accepted => decide +kernel
  case found =>
    obtain ⟨ignoreText, hread, bound, rfl, heach, -⟩ := findByVar?_of_run accepted
    cases hread
    exact (heach ⟨"$A", 0, "N.A", true⟩ (by decide +kernel)).2.mpr (by decide +kernel)

/-- The variable of the first constructor is lost with the second one. -/
theorem findByVar?_of_run_of_two_constructors :
    ∃ model, (run noFiles Config.raw
        ("\t// N.A\n\tvar $A = function() \x7b\n\t\x7d;\n"
          ++ "\tvar $A$1 = function(x) \x7b\n\t\x7d;\n") none).run = Except.ok model ∧
      ∃ b ∈ bindings Config.raw.cleaner (Config.raw.ignoreList none) (Text.lines
          ("\t// N.A\n\tvar $A = function() \x7b\n\t\x7d;\n"
            ++ "\tvar $A$1 = function(x) \x7b\n\t\x7d;\n")),
        model.registry.findByVar? b.varId ≠ some b.id := by
  refine exists_ok_and ?accepted fun model accepted => ?lost
  case accepted => decide +kernel
  case lost =>
    obtain ⟨ignoreText, hread, hrecover⟩ := recover_of_run accepted
    cases hread
    refine ⟨⟨"$A", 0, "N.A", true⟩, by decide +kernel, fun hfound => ?_⟩
    have hlast := (binding_of_recover hrecover rfl (by decide +kernel)).2.mp hfound
    -- the last variable of the class is that of the second constructor
    revert hlast
    decide +kernel

end ClassRecovery.Extraction
