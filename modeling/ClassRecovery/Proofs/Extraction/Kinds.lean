import ClassRecovery.Proofs.Documentation.Compound
import ClassRecovery.Proofs.Dump.Marks
import ClassRecovery.Proofs.Extraction.Variables

/-!
# Kinds of classes in a fused model

The kind of a class is decided by its marks, which are written by different parts of an extraction:
the bulk calls of the dump, the compounds of the documentation, and the fusion that puts them
together. `kindOf` tells the kind from the dump and the documentation directly, and `kind_of_run`
that every class of a fused model has that kind. Every class has a constructor, so none is an
interface for want of one.
-/

set_option autoImplicit false

namespace ClassRecovery

/-- With a constructor the kind is decided by the marks alone. -/
theorem ClassDef.kind_of_constructor {c : ClassDef} (h : c.constructor?.isSome = true) :
    c.kind = if c.isEnum.getD false then .enum
      else if c.isInterface.getD false then .interface
      else if c.isAbstract.getD false then .abstractClass
      else .concreteClass := by
  have hnone : c.constructor?.isNone = false := by
    rw [Option.isNone_eq_false_iff]
    exact h
  unfold ClassDef.kind
  rw [hnone]
  simp only [Bool.false_eq_true, if_false]

namespace Extraction

open Documentation Dump Fusion Xml

/-! ## The kind by the dump and the documentation -/

/-- The compound that documents the class at this handle, if the class is found under its name. -/
def compoundAt? (docs : Option String) (r : Registry) (id : Nat) (c : ClassDef) : Option Node :=
  if r.findByName? c.qualifiedName = some id then
    (docs.bind Xml.parse?).bind fun root => compoundOf? root c.qualifiedName
  else none

/-- The compound describes an interface. -/
def describesInterface (compound : Node) : Bool := CompoundKind.of compound == .interface

/-- The compound describes an abstract class. -/
def describesAbstract (compound : Node) : Bool := compound.attribute? "abstract" == some "yes"

/-- The kind of a class by the lines of the dump that set its marks and the compound that documents
it. -/
def kindOf (visited : List Visit) (id : Nat) (compound : Option Node) : ClassKind :=
  if visited.any (Visit.sets .enum id) then .enum
  else if visited.any (Visit.sets .interface id) || compound.any describesInterface then .interface
  else if compound.any describesAbstract then .abstractClass
  else .concreteClass

variable {config : Config} {ignoreText : Option String} {dump xml : String} {docs : Option String}
  {model recovered fused : RecoveredModel} {docClasses r : Registry} {c d : ClassDef}
  {id : Nat}

/-! ## Documentation -/

/-- The class that documents a class is described by the compound that does. -/
theorem describes_documentationOf? (h : Documentation.ofText xml = .ok docClasses) :
    Option.Rel Describes (compoundAt? (some xml) r id c)
      (documentationOf? r docClasses.classes id c) := by
  obtain ⟨root, hroot, hdescribes⟩ := describes_of_ofText h
  unfold compoundAt? documentationOf?
  split
  · rw [Option.bind_some, hroot, Option.bind_some]
    exact hdescribes c.qualifiedName
  · exact .none

/-- What documentation does to the marks of a class. -/
structure Absorbs (compound : Option Node) (c later : ClassDef) : Prop where
  keptIn : c.KeptIn later
  isInterface : later.isInterface.getD false
    = (c.isInterface.getD (compound.any describesInterface))
  isAbstract : later.isAbstract.getD false
    = (compound.map describesAbstract).getD (c.isAbstract.getD false)

theorem Absorbs.undocumented (c : ClassDef) : Absorbs none c c where
  keptIn := .refl c
  isInterface := rfl
  isAbstract := rfl

theorem Absorbs.documented {compound : Node} {doc : ClassDef} (h : Describes compound doc)
    (c : ClassDef) : Absorbs (some compound) c (documented doc c) where
  keptIn := documented_keptIn doc c
  isInterface := by
    show (c.isInterface.or doc.isInterface).getD false = _
    rw [h.isInterface]
    cases c.isInterface with
    | some mark => rfl
    | none =>
        show _ = (CompoundKind.of compound == .interface)
        by_cases hkind : CompoundKind.of compound = .interface
        · rw [if_pos hkind, hkind]
          rfl
        · rw [if_neg hkind]
          exact (beq_eq_false_iff_ne.mpr hkind).symm
  isAbstract := by
    show doc.isAbstract.getD false = _
    rw [h.isAbstract]
    rfl

/-- A class of a model that has absorbed documentation is the recovered one at its handle, with the
documentation of its compound. -/
theorem exists_absorbs (h : absorb recovered docs = .ok fused)
    (hindexed : recovered.registry.NamesIndexed) (hd : fused.registry.get? id = some d) :
    ∃ c, recovered.registry.get? id = some c ∧
      Absorbs (compoundAt? docs recovered.registry id c) c d := by
  cases docs with
  | none =>
      cases h
      refine ⟨d, hd, ?_⟩
      have hnone : compoundAt? none recovered.registry id d = none := by
        unfold compoundAt?
        rw [Option.bind_none, Option.bind_none, ite_self]
      rw [hnone]
      exact .undocumented d
  | some xml =>
      obtain ⟨docClasses, hdocs, h⟩ := bind_eq_ok_iff.mp h
      cases h
      have hnodup := names_nodup_of_ofText hdocs
      rw [get?_fuse hindexed hnodup, Option.map_eq_some_iff] at hd
      obtain ⟨c, hc, rfl⟩ := hd
      refine ⟨c, hc, ?_⟩
      have hdescribes : Option.Rel Describes (compoundAt? (some xml) recovered.registry id c)
          (documentationOf? recovered.registry docClasses.classes id c) :=
        describes_documentationOf? hdocs
      -- either both are there or neither is
      unfold fusedAt
      generalize documentationOf? recovered.registry docClasses.classes id c = doc at hdescribes
      generalize compoundAt? (some xml) recovered.registry id c = compound at hdescribes
      cases hdescribes with
      | none => exact .undocumented c
      | some hdescribes => exact .documented hdescribes c

/-- A rebuild finds the same classes under their names as the run has. -/
theorem compoundAt?_rebuildIndexes (h : absorb recovered docs = .ok fused)
    (hindexed : recovered.registry.NamesIndexed) (hname : d.qualifiedName = c.qualifiedName) :
    compoundAt? docs fused.rebuildIndexes.registry id d
      = compoundAt? docs recovered.registry id c := by
  have hindex : fused.rebuildIndexes.registry.byName = recovered.registry.byName := by
    rw [RecoveredModel.rebuildIndexes, Registry.rebuildIndexes_eq, hindexed,
      ← (absorb_identities h).1]
  unfold compoundAt? Registry.findByName?
  rw [hindex, hname]

/-! ## Kinds -/

/-- The kind of a class with these marks. -/
theorem Absorbs.kind_eq {compound : Option Node} {visited : List Visit} (h : Absorbs compound c d)
    (hmark : ∀ mark : Mark, mark.of c
      = if visited.any (Visit.sets mark id) then some true else none)
    (hconstructor : d.constructor?.isSome = true) : d.kind = kindOf visited id compound := by
  have henum : d.isEnum.getD false = visited.any (Visit.sets .enum id) := by
    rw [h.keptIn.isEnum, show c.isEnum = _ from hmark .enum]
    cases visited.any (Visit.sets .enum id) <;> rfl
  have hinterface : d.isInterface.getD false
      = (visited.any (Visit.sets .interface id) || compound.any describesInterface) := by
    rw [h.isInterface, show c.isInterface = _ from hmark .interface]
    cases visited.any (Visit.sets .interface id) <;> rfl
  have habstract : d.isAbstract.getD false = compound.any describesAbstract := by
    -- no line of a dump says that a class is abstract
    have hunset : visited.any (Visit.sets .abstract id) = false :=
      List.any_eq_false.mpr fun v _ => by rw [v.sets_abstract]; exact Bool.false_ne_true
    rw [h.isAbstract, show c.isAbstract = _ from hmark .abstract, hunset]
    cases compound <;> rfl
  rw [ClassDef.kind_of_constructor hconstructor, henum, hinterface, habstract, kindOf]

/-- **Kinds of a fused model.** Every class of the model has a variable, and its first method is a
constructor with its body. It is an enumeration if a line of the dump has declared it as one, by a
variable that stood for it then; else an interface if a line or its documentation says so; else an
abstract class if its documentation says so; and else a class like any other. -/
theorem kind_of_run {files : Files Id}
    (accepted : (run files config dump docs).run = Except.ok model) :
    ∃ ignoreText, (readIgnoreFile files config).run = Except.ok ignoreText ∧
      ∀ id c, model.registry.get? id = some c →
        c.varId.isSome = true ∧
        (∃ m rest, c.methods = m :: rest ∧ m.isConstructor = true ∧ m.body.isSome = true) ∧
        c.constructor?.isSome = true ∧
        c.kind = kindOf
          (visits config.cleaner (config.ignoreList ignoreText) (Text.lines dump)) id
          (compoundAt? docs model.registry id c) := by
  obtain ⟨ignoreText, hread, hrecover⟩ := recover_of_run accepted
  obtain ⟨recovered, fused, hdump, habsorb, rfl⟩ := recover_eq_ok_iff.mp hrecover
  obtain ⟨final, hrun, rfl⟩ := map_eq_ok_iff.mp hdump
  have hboundary := boundary_length_iff.mpr hrun
  have hindexed := hboundary.indexes.1
  refine ⟨ignoreText, hread, fun id d hd => ?_⟩
  have hd' : fused.registry.get? id = some d := by
    rw [RecoveredModel.rebuildIndexes, Registry.rebuildIndexes_eq] at hd
    exact hd
  obtain ⟨c, hc, habsorbs⟩ := exists_absorbs habsorb hindexed hd'
  -- the first constructor of the class stays its first method
  obtain ⟨params, body, later, hmethods⟩ := hboundary.firstConstructor id c hc
  have hkept := habsorbs.keptIn.methods
  rw [← hmethods, List.singleton_append] at hkept
  obtain ⟨m, rest, hm, -, hfirst⟩ := List.forall₂_cons_left_iff.mp hkept
  have hisConstructor : m.isConstructor = true := by
    rw [Method.isConstructor, hm.name]
    rfl
  have hconstructor : d.constructor?.isSome = true := by
    unfold ClassDef.constructor?
    rw [hfirst, List.find?_cons_of_pos hisConstructor]
    rfl
  refine ⟨?_, ⟨m, rest, hfirst, hisConstructor, ?_⟩, hconstructor, ?_⟩
  · rw [habsorbs.keptIn.varId]
    exact hboundary.settled.varId id c hc
  · rw [hm.body]
    rfl
  · rw [compoundAt?_rebuildIndexes habsorb hindexed habsorbs.keptIn.qualifiedName_eq]
    exact habsorbs.kind_eq (fun mark => mark_of_run hrun mark hc) hconstructor

/-- A class with a constructor that is documented as an interface. -/
theorem kind_of_run_of_documented_interface :
    let dump := "\t// N.A\n\tvar $A = function() \x7b\n\t\x7d;\n"
    let docs := "<d><compounddef kind='interface'><compoundname>N::A</compoundname>"
      ++ "</compounddef></d>"
    ∃ model a, (run noFiles Config.raw dump (some docs)).run = Except.ok model ∧
      model.registry.get? 0 = some a ∧ a.constructor?.isSome = true ∧ a.kind = .interface := by
  intro dump docs
  have hfound : (Except.toOption (run noFiles Config.raw dump (some docs)).run).map
      (fun model => ((model.registry.get? 0).map ClassDef.qualifiedName,
        model.registry.findByName? "N.A")) = some (some "N.A", some 0) := by decide +kernel
  cases accepted : (run noFiles Config.raw dump (some docs)).run with
  | error failure =>
      rw [accepted] at hfound
      cases hfound
  | ok model =>
      rw [accepted] at hfound
      obtain ⟨hname, hid⟩ := Prod.mk.inj (Option.some.inj hfound)
      obtain ⟨a, ha, hname⟩ := Option.map_eq_some_iff.mp hname
      obtain ⟨ignoreText, hread, hclass⟩ := kind_of_run accepted
      cases hread
      obtain ⟨-, -, hconstructor, hkind⟩ := hclass 0 a ha
      rw [compoundAt?, hname, hid, if_pos rfl] at hkind
      refine ⟨model, a, rfl, ha, hconstructor, hkind.trans ?_⟩
      decide +kernel

end Extraction

end ClassRecovery
