import ClassRecovery.Proofs.Documentation.Compound
import ClassRecovery.Proofs.Dump.ClassRecord
import ClassRecovery.Proofs.Dump.Identity
import ClassRecovery.Proofs.Fusion.Pointwise
import ClassRecovery.Proofs.Names

/-!
# Appended properties

A documented property without counterpart is appended under its name in the script. Three functions
have to agree for this to happen once: the one that makes the name, the one that recognizes it, and
the comparison of names without their case. They do, so after a fusion every documented property has
its counterpart, a second fusion appends nothing, and no name comes up twice
(`fuse_appends_once`).

A counterpart may be recognized by a digit at its end only if it takes the rest of the arguments, and
documentation may change that. But neither a script nor documentation says so of a property of a
class.
-/

set_option autoImplicit false

namespace ClassRecovery.Fusion

open Names

variable {properties later docs : List Property} {doc : Property} {name : String}

/-! ## Counterparts -/

/-- Some property denotes the documented name. -/
def Denoted (properties : List Property) (name : String) : Prop :=
  ∃ p ∈ properties, matchesProperty p name = true

/-- No property takes the rest of the arguments. -/
def NoneTakesRest (properties : List Property) : Prop := ∀ p ∈ properties, p.takesRest = false

theorem findProperty?_eq_none_iff : findProperty? properties name = none ↔ ¬ Denoted properties name := by
  unfold findProperty? Denoted
  rw [List.findIdx?_eq_none_iff]
  simp

/-- Only its name and whether it takes the rest count for what a property denotes. -/
theorem matchesProperty_congr {p q : Property} (hname : q.name = p.name)
    (hrest : q.takesRest = p.takesRest) : matchesProperty q name = matchesProperty p name := by
  unfold matchesProperty
  rw [hname, hrest]

/-- A counterpart stays one. -/
theorem Denoted.keptIn (h : Denoted properties name) (kept : PropertiesKeptIn properties later)
    (hrest : NoneTakesRest properties) (hrest' : NoneTakesRest later) : Denoted later name := by
  obtain ⟨p, hp, hmatches⟩ := h
  obtain ⟨old, added, rfl, hold⟩ := kept
  obtain ⟨q, hq, hpq⟩ := exists_of_forall₂ hold hp
  have hq' : q ∈ old ++ added := List.mem_append_left added hq
  refine ⟨q, hq', ?_⟩
  rw [matchesProperty_congr hpq.name ((hrest' q hq').trans (hrest p hp).symm), hmatches]

/-! ## One documented property -/

theorem noneTakesRest_mergeProperty (h : NoneTakesRest properties) (hdoc : doc.isRest = none) :
    NoneTakesRest (mergeProperty properties doc).1 := by
  have hflag : doc.isRest.getD false = false := by rw [hdoc]; rfl
  unfold mergeProperty
  split
  · intro q hq
    obtain ⟨place, hplace⟩ := List.mem_iff_getElem?.mp hq
    rw [List.getElem?_modify] at hplace
    obtain ⟨p, hp, rfl⟩ := Option.map_eq_some_iff.mp hplace
    split
    · exact hflag
    · exact h p (List.mem_of_getElem? hp)
  · split
    · exact h
    · exact List.forall_mem_append.mpr ⟨h, List.forall_mem_singleton.mpr hflag⟩

/-- The property that is appended denotes the documented one. -/
theorem matchesProperty_appendedProperty (doc : Property) :
    matchesProperty (appendedProperty doc) doc.name = true := by
  unfold matchesProperty appendedProperty
  rw [String.toList_ofList]
  exact denotesProperty_of_lowercase_eq rfl _

/-- A documented property has its counterpart when it has been absorbed. -/
theorem denoted_mergeProperty (h : NoneTakesRest properties) (hdoc : doc.isRest = none)
    (hindexer : isIndexerName doc.name = false) :
    Denoted (mergeProperty properties doc).1 doc.name := by
  by_cases hdenoted : Denoted properties doc.name
  · exact hdenoted.keptIn (mergeProperty_keptIn properties doc) h
      (noneTakesRest_mergeProperty h hdoc)
  · have hnone := findProperty?_eq_none_iff.mpr hdenoted
    refine ⟨appendedProperty doc, ?_, matchesProperty_appendedProperty doc⟩
    unfold mergeProperty
    rw [hnone, hindexer]
    exact List.mem_append_right properties List.mem_cons_self

/-- With a counterpart nothing is appended, nor for an indexer. -/
theorem mergeProperty_appended_eq_zero
    (h : isIndexerName doc.name = false → Denoted properties doc.name) :
    (mergeProperty properties doc).2.appended = 0 := by
  unfold mergeProperty
  cases hfound : findProperty? properties doc.name with
  | some place => rfl
  | none =>
      cases hindexer : isIndexerName doc.name with
      | true => rfl
      | false => exact absurd (h hindexer) (findProperty?_eq_none_iff.mp hfound)

/-- The names of properties without the case of their letters. -/
def lowercaseNames (properties : List Property) : List (List Char) :=
  properties.map fun p => Text.lowercase p.name.toList

theorem lowercaseNames_mergeProperty_nodup (h : (lowercaseNames properties).Nodup)
    (doc : Property) : (lowercaseNames (mergeProperty properties doc).1).Nodup := by
  unfold mergeProperty
  cases hfound : findProperty? properties doc.name with
  | some place =>
      unfold lowercaseNames
      rw [Registry.map_modify_of_same]
      · exact h
      · exact fun _ => rfl
  | none =>
      cases hindexer : isIndexerName doc.name with
      | true => exact h
      | false =>
          have hfresh :
              Text.lowercase (structuralName doc.name.toList) ∉ lowercaseNames properties := by
            intro hmem
            obtain ⟨p, hp, hname⟩ := List.mem_map.mp hmem
            -- a property with the name but for its case is a counterpart
            exact findProperty?_eq_none_iff.mp hfound
              ⟨p, hp, denotesProperty_of_lowercase_eq hname p.takesRest⟩
          have happended : lowercaseNames (properties ++ [appendedProperty doc])
              = lowercaseNames properties ++ [Text.lowercase (structuralName doc.name.toList)] := by
            simp only [lowercaseNames, appendedProperty, List.map_append, List.map_singleton,
              String.toList_ofList]
          show (lowercaseNames (properties ++ [appendedProperty doc])).Nodup
          rw [happended, List.nodup_append_comm]
          exact List.nodup_cons.mpr ⟨hfresh, h⟩

/-! ## All documented properties of a class -/

theorem noneTakesRest_mergeAll (h : NoneTakesRest properties)
    (hdocs : ∀ doc ∈ docs, doc.isRest = none) :
    NoneTakesRest (mergeAll mergeProperty properties docs).1 := by
  induction docs generalizing properties with
  | nil => exact h
  | cons doc rest ih =>
      rw [List.forall_mem_cons] at hdocs
      rw [mergeAll_cons_fst]
      exact ih (noneTakesRest_mergeProperty h hdocs.1) hdocs.2

theorem mergeAll_mergeProperty_keptIn (properties docs : List Property) :
    PropertiesKeptIn properties (mergeAll mergeProperty properties docs).1 :=
  mergeAll_related PropertiesKeptIn.refl (fun _ _ _ => PropertiesKeptIn.trans) mergeProperty_keptIn
    properties docs

/-- Every documented property has its counterpart in the end. -/
theorem denoted_mergeAll (h : NoneTakesRest properties) (hdocs : ∀ doc ∈ docs, doc.isRest = none) :
    ∀ doc ∈ docs, isIndexerName doc.name = false →
      Denoted (mergeAll mergeProperty properties docs).1 doc.name := by
  induction docs generalizing properties with
  | nil => intro doc hdoc; cases hdoc
  | cons doc rest ih =>
      rw [List.forall_mem_cons] at hdocs
      have hfirst := noneTakesRest_mergeProperty h hdocs.1
      rw [mergeAll_cons_fst]
      refine List.forall_mem_cons.mpr ⟨fun hindexer => ?_, ih hfirst hdocs.2⟩
      -- the counterpart of the first one stays while the others are absorbed
      exact (denoted_mergeProperty h hdocs.1 hindexer).keptIn (mergeAll_mergeProperty_keptIn _ rest)
        hfirst (noneTakesRest_mergeAll hfirst hdocs.2)

/-- If all documented properties have counterparts, nothing is appended. -/
theorem mergeAll_appended_eq_zero (h : NoneTakesRest properties)
    (hdocs : ∀ doc ∈ docs, doc.isRest = none)
    (hdenoted : ∀ doc ∈ docs, isIndexerName doc.name = false → Denoted properties doc.name) :
    (mergeAll mergeProperty properties docs).2.appended = 0 := by
  unfold mergeAll
  -- of any start at which nothing has been appended
  generalize hstart : ({} : Stats) = stats
  have hzero : stats.appended = 0 := by rw [← hstart]
  clear hstart
  induction docs generalizing properties stats with
  | nil => exact hzero
  | cons doc rest ih =>
      rw [List.forall_mem_cons] at hdocs hdenoted
      have hfirst := noneTakesRest_mergeProperty h hdocs.1
      have hnothing := mergeProperty_appended_eq_zero hdenoted.1
      refine ih hfirst hdocs.2 (fun other hother hindexer => ?_) _ ?_
      · exact (hdenoted.2 other hother hindexer).keptIn (mergeProperty_keptIn properties doc) h hfirst
      · show stats.appended + (mergeProperty properties doc).2.appended = 0
        omega

theorem lowercaseNames_mergeAll_nodup (h : (lowercaseNames properties).Nodup)
    (docs : List Property) :
    (lowercaseNames (mergeAll mergeProperty properties docs).1).Nodup :=
  mergeAll_related (S := fun l m => (lowercaseNames l).Nodup → (lowercaseNames m).Nodup)
    (fun _ => id) (fun _ _ _ h k => k ∘ h)
    (fun _ doc hnodup => lowercaseNames_mergeProperty_nodup hnodup doc) properties docs h

/-! ## Classes -/

/-- Methods are never appended. -/
theorem mergeClass_appended_eq (c doc : ClassDef) :
    (mergeClass c doc).2.appended
      = (mergeAll mergeProperty c.properties doc.properties).2.appended := by
  have hclass := mergeClass_appended c doc
  have hproperties := mergeAll_appended List.length mergeProperty_length c.properties doc.properties
  have hsame : (mergeClass c doc).1.properties
      = (mergeAll mergeProperty c.properties doc.properties).1 := rfl
  rw [hsame] at hclass
  omega

variable {c d : ClassDef} {r documents : Registry} {id : Nat}

theorem noneTakesRest_documented (h : NoneTakesRest c.properties)
    (hdoc : ∀ p ∈ d.properties, p.isRest = none) : NoneTakesRest (documented d c).properties :=
  noneTakesRest_mergeAll h hdoc

/-- Every documented property of a class has its counterpart in the documented class. -/
theorem denoted_documented (h : NoneTakesRest c.properties)
    (hdoc : ∀ p ∈ d.properties, p.isRest = none) :
    ∀ p ∈ d.properties, isIndexerName p.name = false →
      Denoted (documented d c).properties p.name :=
  denoted_mergeAll h hdoc

/-- Documentation that a class has absorbed appends nothing to it. -/
theorem mergeClass_documented_appended (h : NoneTakesRest c.properties)
    (hdoc : ∀ p ∈ d.properties, p.isRest = none) :
    (mergeClass { documented d c with docId := d.docId } d).2.appended = 0 := by
  rw [mergeClass_appended_eq]
  exact mergeAll_appended_eq_zero (noneTakesRest_documented h hdoc) hdoc (denoted_documented h hdoc)

theorem lowercaseNames_fusedAt_nodup {docs : List ClassDef} (i : Nat)
    (h : (lowercaseNames c.properties).Nodup) :
    (lowercaseNames (fusedAt r docs i c).properties).Nodup := by
  unfold fusedAt
  split
  · exact lowercaseNames_mergeAll_nodup h _
  · exact h

/-! ## Registries -/

/-- What is touched is counted as appended only if some documented class appends a property. -/
theorem touched_appended_eq_zero {docs : List ClassDef}
    (h : ∀ doc ∈ docs, (fuseClass r doc).2.appended = 0) : (touched r docs).appended = 0 := by
  unfold touched
  refine List.foldlRecOn (motive := fun stats : Stats => stats.appended = 0) docs _ rfl ?_
  intro stats hstats doc hdoc
  have hnothing := h doc hdoc
  simp only [Stats.add]
  omega

/-- A second fusion with the same documentation appends nothing. -/
theorem fuse_fuse_appended (h : r.NamesIndexed) (hnodup : documents.names.Nodup)
    (hr : r.All fun c => NoneTakesRest c.properties)
    (hdocs : ∀ doc ∈ documents.classes, ∀ p ∈ doc.properties, p.isRest = none) :
    (fuse (fuse r documents).1 documents).2.appended = 0 := by
  have hsame : r.SameIdentities (fuse r documents).1 := fuse_sameIdentities r documents
  rw [fuse_eq (h.same hsame) hnodup]
  refine touched_appended_eq_zero fun doc hdoc => ?_
  have hfound : (fuse r documents).1.findByName? doc.qualifiedName
      = r.findByName? doc.qualifiedName := congrArg (Index.find? · doc.qualifiedName) hsame.byName
  rw [(fuseClass_eq _ doc).2, hfound]
  cases hid : r.findByName? doc.qualifiedName with
  | none => rfl
  | some id =>
      obtain ⟨c, hc, hfused⟩ := get?_fuse_of_documented h hnodup hdoc hid
      rw [Option.bind_some, hfused]
      exact mergeClass_documented_appended (hr id c hc) (hdocs doc hdoc)

/-- **A documented property is appended once.** After a fusion of a dump with its documentation, every
documented property of a class that is found has its counterpart in this class, unless it is an
indexer. A second fusion with the same documentation appends nothing. A class in which no two names
of properties agree but for the case of letters stays one. -/
theorem fuse_appends_once {cleaner : Cleaner} {ignore : IgnoreList} {lines : List String}
    {model : RecoveredModel} {xml : String} {documents : Registry}
    (accepted : Dump.recover cleaner ignore lines = .ok model)
    (documentation : Documentation.ofText xml = .ok documents) :
    (∀ doc ∈ documents.classes, ∀ id, model.registry.findByName? doc.qualifiedName = some id →
        ∃ c, (fuse model.registry documents).1.get? id = some c ∧
          ∀ p ∈ doc.properties, isIndexerName p.name = false → Denoted c.properties p.name) ∧
      (fuse (fuse model.registry documents).1 documents).2.appended = 0 ∧
      ∀ id c, model.registry.get? id = some c → (lowercaseNames c.properties).Nodup →
        ∃ d, (fuse model.registry documents).1.get? id = some d ∧
          (lowercaseNames d.properties).Nodup := by
  obtain ⟨final, hrun, rfl⟩ := map_eq_ok_iff.mp accepted
  obtain ⟨-, hindexed, -⟩ := Dump.gains_of_run hrun
  have hr : final.registry.All fun c => NoneTakesRest c.properties := by
    intro id c hc p hp
    have hscript := (Dump.properties_ofScript cleaner).recover accepted id c hc p hp
    rw [Property.takesRest, hscript.isRest]
    rfl
  have hnodup := Documentation.names_nodup_of_ofText documentation
  have hdocs := Documentation.isRest_of_ofText documentation
  refine ⟨fun doc hdoc id hid => ?_, fuse_fuse_appended hindexed hnodup hr hdocs,
    fun id c hc hnames => ?_⟩
  · obtain ⟨c, hc, hfused⟩ := get?_fuse_of_documented hindexed hnodup hdoc hid
    exact ⟨documented doc c, hfused, denoted_documented (hr id c hc) (hdocs doc hdoc)⟩
  · refine ⟨fusedAt final.registry documents.classes id c, ?_, lowercaseNames_fusedAt_nodup id hnames⟩
    show (fuse final.registry documents).1.get? id = _
    rw [get?_fuse hindexed hnodup, show final.registry.get? id = some c from hc]
    rfl

/-- A class without properties, and documentation of one property. -/
theorem fuse_appends_once_of_missing_property :
    ∃ model, Dump.recover {} {} ["\t// N.C", "\tvar $C = function() \x7b", "\t\x7d;"] = .ok model ∧
      ∃ documents, Documentation.ofText
          ("<d><compounddef kind='class'><compoundname>N::C</compoundname><sectiondef>"
            ++ "<memberdef kind='event'><name>Size</name></memberdef></sectiondef></compounddef></d>")
          = .ok documents ∧
        (fuse (fuse model.registry documents).1 documents).2.appended = 0 := by
  refine exists_ok_and ?accepted fun model accepted => exists_ok_and ?documented
    fun documents documented => ?once
  case accepted => decide +kernel
  case documented => decide +kernel
  case once => exact (fuse_appends_once accepted documented).2.1

end ClassRecovery.Fusion
