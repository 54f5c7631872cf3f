import ClassRecovery.Extraction
import ClassRecovery.Proofs.Dump.Identity
import ClassRecovery.Proofs.Fusion.Frame
import ClassRecovery.Proofs.Model.Json

/-!
# Names of recovered classes

The qualified name is meant to identify a class, but a run registers a class for every first
constructor, whatever classes it has already: only the variable has to be free. Where a name is
registered twice, the earlier class is found under it no longer: it gets no documentation, and it is
lost when the model is written and read back. `names_of_recover` says that nothing of this happens
as long as no name is registered twice.
-/

set_option autoImplicit false

namespace ClassRecovery.Dump

variable {cleaner : Cleaner} {ignore : IgnoreList} {lines : List String}

/-- Documentation reaches the class it is written for, whichever class that is, exactly when every
class is found under its own name. -/
theorem fuseClass_reaches_iff (r : Registry) :
    (∀ id c doc, r.get? id = some c → doc.qualifiedName = c.qualifiedName →
        (Fusion.fuseClass r doc).1.classes = r.classes.modify id (Fusion.documented doc)) ↔
      ∀ id c, r.get? id = some c → r.findByName? c.qualifiedName = some id := by
  constructor
  · intro hreaches id c hc
    -- documentation of this class that shows in its record
    obtain ⟨docId, hdocId⟩ : ∃ docId, docId ≠ c.docId := by
      cases hdoc : c.docId with
      | none => exact ⟨some "", nofun⟩
      | some known => exact ⟨none, nofun⟩
    let doc : ClassDef := { c with docId := docId }
    have hfuse := hreaches id c doc hc rfl
    have hchanged : (Fusion.fuseClass r doc).1.classes[id]? = some (Fusion.documented doc c) := by
      rw [hfuse, List.getElem?_modify_eq, show r.classes[id]? = some c from hc]
      rfl
    have hdiffers : c ≠ Fusion.documented doc c := fun heq => hdocId (congrArg ClassDef.docId heq).symm
    by_contra hlost
    rw [(Fusion.fuseClass_eq r doc).1] at hchanged
    refine hdiffers (Option.some.inj (hc.symm.trans ?_))
    rw [← hchanged]
    -- what is found under the name is another class or none
    cases hplace : r.findByName? doc.qualifiedName with
    | none => rfl
    | some place =>
        have hne : place ≠ id := by
          rintro rfl
          exact hlost hplace
        exact (List.getElem?_modify_ne _ _ hne).symm
  · intro hfound id c doc hc hname
    rw [(Fusion.fuseClass_eq r doc).1, hname, hfound id c hc]

/-- **Names of recovered classes.** The classes have the names that are registered, in this order.
If no name is registered twice, and only then, every class is found under its own name, documentation
reaches the class it is written for, and all classes are left when the model is written and read
back. -/
theorem names_of_recover {model : RecoveredModel}
    (accepted : recover cleaner ignore lines = .ok model) :
    model.classes.map ClassDef.qualifiedName = registeredNames (bindings cleaner ignore lines) ∧
      ((registeredNames (bindings cleaner ignore lines)).Nodup ↔
        ∀ id c, model.registry.get? id = some c →
          model.registry.findByName? c.qualifiedName = some id) ∧
      ((registeredNames (bindings cleaner ignore lines)).Nodup ↔
        ∀ id c doc, model.registry.get? id = some c → doc.qualifiedName = c.qualifiedName →
          (Fusion.fuseClass model.registry doc).1.classes
            = model.classes.modify id (Fusion.documented doc)) ∧
      ((registeredNames (bindings cleaner ignore lines)).Nodup ↔
        ∃ read, RecoveredModel.ofJson? model.toJson = some read ∧
          read.classes = model.classes) := by
  obtain ⟨final, hrun, rfl⟩ := map_eq_ok_iff.mp accepted
  obtain ⟨hgains, hindexed, -⟩ := gains_of_run hrun
  have hnames : final.registry.names = registeredNames (bindings cleaner ignore lines) :=
    hgains.names
  have hfound := hindexed.nodup_iff
  rw [hnames] at hfound
  refine ⟨hnames, hfound, hfound.trans (fuseClass_reaches_iff final.registry).symm, ?_⟩
  rw [← hnames, RecoveredModel.ofJson?_toJson]
  constructor
  · intro hnodup
    exact ⟨_, rfl, Registry.classes_ofList_eq_iff.mpr hnodup⟩
  · rintro ⟨read, hread, hclasses⟩
    cases hread
    exact Registry.classes_ofList_eq_iff.mp hclasses

/-- Two classes with different names, one of which has two constructors. -/
theorem names_of_recover_of_two_classes :
    ∃ model, recover {} {}
        ["\t// N.A", "\tvar $A = function() \x7b", "\t\x7d;", "\tvar $A$1 = function() \x7b",
          "\t\x7d;", "\t// N.B", "\tvar $B = function() \x7b", "\t\x7d;"] = .ok model ∧
      ∀ id c, model.registry.get? id = some c →
        model.registry.findByName? c.qualifiedName = some id := by
  refine exists_ok_and ?accepted fun model accepted => ?found
  case accepted => decide +kernel
  case found => exact (names_of_recover accepted).2.1.mp (by decide +kernel)

/-- One name is registered twice, for two variables. -/
theorem names_of_recover_not_nodup :
    ∃ model, recover {} {}
        ["\t// Ns.A", "\tvar $A = function() \x7b", "\t\x7d;", "\t// Ns.A",
          "\tvar $B = function() \x7b", "\t\x7d;"] = .ok model ∧
      ¬ (model.classes.map ClassDef.qualifiedName).Nodup := by
  refine exists_ok_and ?accepted fun model accepted => ?twice
  case accepted => decide +kernel
  case twice =>
    obtain ⟨final, hrun, rfl⟩ := map_eq_ok_iff.mp accepted
    have hnames : final.registry.names = registeredNames (bindings {} {} _) :=
      (gains_of_run hrun).1.names
    show ¬ final.registry.names.Nodup
    rw [hnames]
    decide +kernel

end ClassRecovery.Dump
