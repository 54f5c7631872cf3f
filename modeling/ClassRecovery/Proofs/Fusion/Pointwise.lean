import ClassRecovery.Proofs.Fusion.Frame
import ClassRecovery.Proofs.Model.Operations

/-!
# Documentation class by class

A fusion takes the documented classes one after the other, and all of them change one registry. Still
each class is affected by its own documentation alone: the class at a handle becomes what
`documentationOf?` finds for it makes of it, and what is counted is the sum of what each documented
class touches in the registry before the fusion (`get?_fuse`, `fuse_eq`). So the order of the
documentation does not count (`fuse_pointwise`).

All this rests on the index of names being in order: what is found under a name is a class of that
name, so two documented classes of different names never meet.
-/

set_option autoImplicit false

namespace ClassRecovery.Fusion

open Registry

variable {r docs : Registry} {doc other c : ClassDef} {rest : List ClassDef} {i : Nat}

/-! ## The documentation of one class -/

/-- The documentation of the class at this handle: of its name, if the class is found under it. -/
def documentationOf? (r : Registry) (docs : List ClassDef) (i : Nat) (c : ClassDef) :
    Option ClassDef :=
  if r.findByName? c.qualifiedName = some i then
    docs.find? fun doc => doc.qualifiedName == c.qualifiedName
  else none

/-- The class at this handle with its documentation, if there is any. -/
def fusedAt (r : Registry) (docs : List ClassDef) (i : Nat) (c : ClassDef) : ClassDef :=
  match documentationOf? r docs i c with
  | some doc => documented doc c
  | none => c

/-- Of documentation with distinct names a class has at most one. -/
theorem documentationOf?_eq_some_iff {docs : List ClassDef}
    (hnodup : (docs.map ClassDef.qualifiedName).Nodup) :
    documentationOf? r docs i c = some doc ↔
      r.findByName? c.qualifiedName = some i ∧ doc ∈ docs ∧
        doc.qualifiedName = c.qualifiedName := by
  unfold documentationOf?
  rw [Option.ite_none_right_eq_some, find?_name_eq_some_iff hnodup]

/-- The order of documentation with distinct names does not count for a class. -/
theorem documentationOf?_perm {docs docs' : List ClassDef} (hperm : docs'.Perm docs)
    (hnodup : (docs.map ClassDef.qualifiedName).Nodup) :
    documentationOf? r docs' i c = documentationOf? r docs i c := by
  have hnodup' : (docs'.map ClassDef.qualifiedName).Nodup :=
    (hperm.map ClassDef.qualifiedName).nodup_iff.mpr hnodup
  refine Option.ext fun doc => ?_
  rw [documentationOf?_eq_some_iff hnodup', documentationOf?_eq_some_iff hnodup, hperm.mem_iff]

/-- Documentation of another class does not count for a class. -/
theorem documentationOf?_cons_of_ne (hne : doc.qualifiedName ≠ c.qualifiedName) :
    documentationOf? r (doc :: rest) i c = documentationOf? r rest i c := by
  unfold documentationOf?
  rw [List.find?_cons_of_neg (by simpa using hne)]

/-! ## One step -/

theorem fuseClass_sameIdentities (r : Registry) (doc : ClassDef) :
    r.SameIdentities (fuseClass r doc).1 := by
  unfold fuseClass
  cases r.findByName? doc.qualifiedName with
  | none => exact .refl r
  | some id =>
      have hknown : r.SameIdentities (r.setDocId id doc.docId) := .setDocId r id doc.docId
      dsimp only
      cases (r.setDocId id doc.docId).get? id with
      | none => exact hknown
      | some c => exact hknown.trans (.modify _ id fun _ => ⟨rfl, rfl, rfl⟩)

/-- The documentation of a class changes the class that is found under its name. -/
theorem get?_fuseClass (r : Registry) (doc : ClassDef) (i : Nat) :
    (fuseClass r doc).1.get? i
      = (r.get? i).map fun c =>
          if r.findByName? doc.qualifiedName = some i then documented doc c else c := by
  show (fuseClass r doc).1.classes[i]? = _
  rw [(fuseClass_eq r doc).1]
  cases r.findByName? doc.qualifiedName with
  | none => simp [Registry.get?]
  | some id =>
      rw [List.getElem?_modify]
      simp [Registry.get?]

/-- What documentation touches is settled before any documentation of other names is absorbed. -/
theorem fuseClass_stats_of_ne (h : r.NamesIndexed) (hne : other.qualifiedName ≠ doc.qualifiedName) :
    (fuseClass (fuseClass r doc).1 other).2 = (fuseClass r other).2 := by
  have hfound : (fuseClass r doc).1.findByName? other.qualifiedName
      = r.findByName? other.qualifiedName :=
    congrArg (Index.find? · other.qualifiedName) (fuseClass_sameIdentities r doc).byName
  rw [(fuseClass_eq _ other).2, (fuseClass_eq r other).2, hfound]
  cases hother : r.findByName? other.qualifiedName with
  | none => rfl
  | some id =>
      -- else one class would have both names
      have happart : r.findByName? doc.qualifiedName ≠ some id := by
        intro hdoc
        obtain ⟨c, hc, hname⟩ := h.exists_of_findByName? hother
        obtain ⟨d, hd, hname'⟩ := h.exists_of_findByName? hdoc
        rw [hc] at hd
        cases hd
        exact hne (hname.symm.trans hname')
      have hsame : (fuseClass r doc).1.get? id = r.get? id := by
        rw [get?_fuseClass]
        simp only [if_neg happart, Option.map_id_fun', id_eq]
      rw [Option.bind_some, Option.bind_some, hsame]

/-! ## A whole fusion -/

/-- The registry with the documentation of these classes, one after the other. -/
def absorbed (r : Registry) (docs : List ClassDef) : Registry :=
  docs.foldl (fun r doc => (fuseClass r doc).1) r

/-- What the documentation of these classes touches in a registry, each of them on its own. -/
def touched (r : Registry) (docs : List ClassDef) : Stats :=
  docs.foldl (fun stats doc => stats.add (fuseClass r doc).2) {}

/-- The two halves of a fusion. -/
theorem fuse_eq (h : r.NamesIndexed) (hnodup : docs.names.Nodup) :
    fuse r docs = (absorbed r docs.classes, touched r docs.classes) := by
  obtain ⟨docs, _, _, _⟩ := docs
  unfold fuse absorbed touched
  dsimp only [Registry.names] at hnodup ⊢
  -- of any start, not only one at which nothing has been touched
  generalize ({} : Stats) = stats
  induction docs generalizing r stats with
  | nil => rfl
  | cons doc rest ih =>
      obtain ⟨hdoc, hrest⟩ := List.nodup_cons.mp hnodup
      have hlater : ∀ stats : Stats, ∀ other ∈ rest,
          stats.add (fuseClass (fuseClass r doc).1 other).2
            = stats.add (fuseClass r other).2 := by
        intro stats other hother
        rw [fuseClass_stats_of_ne h]
        intro hname
        exact hdoc (hname ▸ List.mem_map_of_mem hother)
      have hindexed : (fuseClass r doc).1.NamesIndexed := h.same (fuseClass_sameIdentities r doc)
      rw [List.foldl_cons, List.foldl_cons, List.foldl_cons, ih hindexed hrest,
        List.foldl_ext _ _ _ hlater]

/-- The first of the documented classes, then the others, is what all of them make of a class. -/
theorem fusedAt_fuseClass (h : r.NamesIndexed)
    (hdoc : doc.qualifiedName ∉ rest.map ClassDef.qualifiedName) (hc : r.get? i = some c) :
    fusedAt (fuseClass r doc).1 rest i
        (if r.findByName? doc.qualifiedName = some i then documented doc c else c)
      = fusedAt r (doc :: rest) i c := by
  have hindex : (fuseClass r doc).1.findByName? = r.findByName? :=
    congrArg Index.find? (fuseClass_sameIdentities r doc).byName
  by_cases hname : doc.qualifiedName = c.qualifiedName
  · -- no other documentation has the name
    have hnone (d : ClassDef) (hd : d.qualifiedName = c.qualifiedName) :
        fusedAt (fuseClass r doc).1 rest i d = d := by
      have hrest : (rest.find? fun other => other.qualifiedName == d.qualifiedName) = none := by
        refine List.find?_eq_none.mpr fun other hother hother' => hdoc ?_
        rw [hname, ← hd, ← beq_iff_eq.mp hother']
        exact List.mem_map_of_mem hother
      simp only [fusedAt, documentationOf?, hrest, ite_self]
    have hfirst : (doc :: rest).find? (fun other => other.qualifiedName == c.qualifiedName)
        = some doc := List.find?_cons_of_pos (beq_iff_eq.mpr hname)
    have hall : fusedAt r (doc :: rest) i c
        = if r.findByName? c.qualifiedName = some i then documented doc c else c := by
      unfold fusedAt documentationOf?
      by_cases hfound : r.findByName? c.qualifiedName = some i
      · rw [if_pos hfound, if_pos hfound, hfirst]
      · rw [if_neg hfound, if_neg hfound]
    rw [hall, hname]
    split
    · exact hnone _ (documented_keptIn doc c).qualifiedName_eq
    · exact hnone c rfl
  · -- else a class of one name is found under another one
    have hlost : r.findByName? doc.qualifiedName ≠ some i := by
      intro hfound
      obtain ⟨d, hd, hname'⟩ := h.exists_of_findByName? hfound
      rw [hc] at hd
      cases hd
      exact hname hname'.symm
    unfold fusedAt
    rw [if_neg hlost, documentationOf?_cons_of_ne hname]
    unfold documentationOf?
    rw [hindex]

/-- Each class is affected by its own documentation alone. -/
theorem get?_absorbed (h : r.NamesIndexed) {docs : List ClassDef}
    (hnodup : (docs.map ClassDef.qualifiedName).Nodup) (i : Nat) :
    (absorbed r docs).get? i = (r.get? i).map (fusedAt r docs i) := by
  induction docs generalizing r with
  | nil =>
      have hnone : fusedAt r [] i = id := by
        funext c
        simp [fusedAt, documentationOf?]
      rw [hnone, Option.map_id]
      rfl
  | cons doc rest ih =>
      obtain ⟨hdoc, hrest⟩ := List.nodup_cons.mp hnodup
      have hsame := fuseClass_sameIdentities r doc
      show (absorbed (fuseClass r doc).1 rest).get? i = _
      rw [ih (h.same hsame) hrest, get?_fuseClass, Option.map_map]
      refine Option.map_congr fun c hc => ?_
      exact fusedAt_fuseClass h hdoc hc

theorem get?_fuse (h : r.NamesIndexed) (hnodup : docs.names.Nodup) (i : Nat) :
    (fuse r docs).1.get? i = (r.get? i).map (fusedAt r docs.classes i) := by
  rw [fuse_eq h hnodup]
  exact get?_absorbed h hnodup i

/-- A documented class whose name is found documents the class that is found. -/
theorem get?_fuse_of_documented (h : r.NamesIndexed) (hnodup : docs.names.Nodup)
    (hdoc : doc ∈ docs.classes) (hfound : r.findByName? doc.qualifiedName = some i) :
    ∃ c, r.get? i = some c ∧ (fuse r docs).1.get? i = some (documented doc c) := by
  obtain ⟨c, hc, hname⟩ := h.exists_of_findByName? hfound
  have hdocumentation : documentationOf? r docs.classes i c = some doc :=
    (documentationOf?_eq_some_iff hnodup).mpr ⟨by rw [hname, hfound], hdoc, hname.symm⟩
  refine ⟨c, hc, ?_⟩
  rw [get?_fuse h hnodup, hc, Option.map_some, fusedAt, hdocumentation]

theorem fuse_sameIdentities (r docs : Registry) : r.SameIdentities (fuse r docs).1 := by
  unfold fuse
  refine foldl_fst_related SameIdentities.refl (fun _ _ _ => SameIdentities.trans)
    (fun acc doc => ?_) (r, ({} : Stats)) docs.classes
  exact fuseClass_sameIdentities acc.1 doc

/-- The order in which counts are added up does not matter. -/
theorem Stats.add_right_comm (a b c : Stats) : (a.add b).add c = (a.add c).add b := by
  simp only [Stats.add, Nat.add_right_comm]

theorem touched_perm {docs docs' : List ClassDef} (hperm : docs'.Perm docs) :
    touched r docs' = touched r docs :=
  hperm.foldl_eq' (fun _ _ _ _ stats => (Stats.add_right_comm stats _ _).symm) {}

/-! ## The order of documentation -/

/-- **Documentation class by class.** Let the registry be what some operations lead to, and let the
documented classes have distinct names. A fusion leaves each class as it is, but for the one that is
found under the name of a documented class: that class takes over its documentation identifier and
its members. So whatever the order of the documented classes, the classes and the counts are the
same. -/
theorem fuse_pointwise (operations : List Operation) (hnodup : docs.names.Nodup) :
    (∀ i, (fuse (after operations) docs).1.get? i
        = ((after operations).get? i).map (fusedAt (after operations) docs.classes i)) ∧
      ∀ docs' : Registry, docs'.classes.Perm docs.classes →
        (fuse (after operations) docs').1.classes = (fuse (after operations) docs).1.classes ∧
          (fuse (after operations) docs').2 = (fuse (after operations) docs).2 := by
  have hindexed := after_namesIndexed operations
  generalize after operations = r at hindexed
  refine ⟨get?_fuse hindexed hnodup, fun docs' hperm => ?_⟩
  have hnodup' : docs'.names.Nodup := (hperm.map ClassDef.qualifiedName).nodup_iff.mpr hnodup
  constructor
  · refine List.ext_getElem? fun i => ?_
    have hsame : fusedAt r docs'.classes i = fusedAt r docs.classes i := by
      funext c
      rw [fusedAt, documentationOf?_perm hperm hnodup, fusedAt]
    calc (fuse r docs').1.get? i
        = (r.get? i).map (fusedAt r docs'.classes i) := get?_fuse hindexed hnodup' i
      _ = (fuse r docs).1.get? i := by rw [hsame, get?_fuse hindexed hnodup]
  · rw [fuse_eq hindexed hnodup, fuse_eq hindexed hnodup']
    exact touched_perm hperm

/-- A class of two variables with documentation, then a class without, and documentation of a class
that there is not. -/
theorem fuse_pointwise_of_two_classes :
    let r := after [.insert { space := "N", name := "A", varId := some "$A" }, .bindVar 0 "$A$1",
      .insert { space := "N", name := "B" }]
    let a : ClassDef := { space := "N", name := "A", docId := some "classA", links := ["B"] }
    let c : ClassDef := { space := "N", name := "C", docId := some "classC" }
    (Registry.names { classes := [a, c] }).Nodup ∧
      (fuse r { classes := [a, c] }).1.get? 0
        = some { space := "N", name := "A", docId := some "classA", links := ["B"],
                 varId := some "$A$1" } ∧
      (fuse r { classes := [a, c] }).1.get? 1 = r.get? 1 ∧
      (fuse r { classes := [c, a] }).1.classes = (fuse r { classes := [a, c] }).1.classes ∧
      (fuse r { classes := [c, a] }).2 = (fuse r { classes := [a, c] }).2 := by
  intro r a c
  have hnodup : (Registry.names { classes := [a, c] }).Nodup := by decide +kernel
  obtain ⟨hat, hperm⟩ := fuse_pointwise [.insert { space := "N", name := "A", varId := some "$A" },
    .bindVar 0 "$A$1", .insert { space := "N", name := "B" }] hnodup
  refine ⟨hnodup, (hat 0).trans ?_, (hat 1).trans ?_, hperm { classes := [c, a] } (.swap a c [])⟩
  · decide +kernel
  · decide +kernel

end ClassRecovery.Fusion
