import Mathlib.Algebra.Ring.Nat
import Mathlib.Data.List.Forall2
import ClassRecovery.Fusion
import ClassRecovery.Proofs.Model.Registry

/-!
# What documentation leaves alone

Documentation tells types, descriptions, access levels and staticness, and it may append
properties. All else of a class comes from the script and stays as it is: `ClassDef.KeptIn` says so
of one class and its later record, and `fuse_keeps` of whole registries, however the documentation
overlaps with itself.

Every pass of a fusion is a fold, and `KeptIn` is reflexive and transitive, so it is proved of one
change and carried through each fold.
-/

set_option autoImplicit false

namespace ClassRecovery

/-! ## Lists of records, pairwise related -/

section Pairwise

variable {α : Type} {R : α → α → Prop}

theorem forall₂_trans (trans : ∀ a b c, R a b → R b c → R a c) {l m n : List α}
    (h : List.Forall₂ R l m) (k : List.Forall₂ R m n) : List.Forall₂ R l n := by
  induction h generalizing n with
  | nil => exact k
  | cons hab _ ih =>
      cases k with
      | cons hbc hmn => exact .cons (trans _ _ _ hab hbc) (ih hmn)

/-- A list in which one element is changed. -/
theorem forall₂_modify (refl : ∀ a, R a a) {f : α → α} (hf : ∀ a, R a (f a)) (l : List α)
    (i : Nat) : List.Forall₂ R l (l.modify i f) := by
  induction l generalizing i with
  | nil => simp
  | cons a l ih =>
      cases i with
      | zero => exact .cons (hf a) (List.forall₂_same.mpr fun b _ => refl b)
      | succ i => exact .cons (refl a) (ih i)

/-- Every element of a list has its related one. -/
theorem exists_of_forall₂ {l m : List α} {a : α} (h : List.Forall₂ R l m) (ha : a ∈ l) :
    ∃ b ∈ m, R a b := by
  induction h with
  | nil => cases ha
  | @cons a' b l m hab _ ih =>
      rcases List.mem_cons.mp ha with rfl | ha
      · exact ⟨b, List.mem_cons_self, hab⟩
      · obtain ⟨c, hc, hac⟩ := ih ha
        exact ⟨c, List.mem_cons_of_mem b hc, hac⟩

/-- What every step of a fold keeps of the first half of its state, the whole fold keeps. -/
theorem foldl_fst_related {σ τ : Type} {S : σ → σ → Prop} (refl : ∀ s, S s s)
    (trans : ∀ a b c, S a b → S b c → S a c) {step : σ × τ → α → σ × τ}
    (hstep : ∀ acc a, S acc.1 (step acc a).1) (start : σ × τ) (l : List α) :
    S start.1 (l.foldl step start).1 := by
  induction l generalizing start with
  | nil => exact refl start.1
  | cons a l ih => exact trans _ _ _ (hstep start a) (ih (step start a))

/-- The sum over a list in which one element is changed. -/
theorem sum_map_modify {size : α → Nat} {f : α → α} {l : List α} {i : Nat} {a : α} {more : Nat}
    (ha : l[i]? = some a) (hf : size (f a) = size a + more) :
    ((l.modify i f).map size).sum = (l.map size).sum + more := by
  induction l generalizing i with
  | nil => cases ha
  | cons b l ih =>
      cases i with
      | zero =>
          cases ha
          simp only [List.modify_zero_cons, List.map_cons, List.sum_cons, hf]
          omega
      | succ i =>
          have hi : l[i]? = some a := by simpa using ha
          simp only [List.modify_succ_cons, List.map_cons, List.sum_cons, ih hi]
          omega

end Pairwise

/-! ## Records and their later records -/

/-- The later record is of the same property or parameter, with the value it starts with. -/
structure Property.KeptIn (p later : Property) : Prop where
  name : later.name = p.name
  defaultValue : later.defaultValue = p.defaultValue
  isStatic : later.isStatic = p.isStatic

/-- The later properties begin with the earlier ones, in the same order. -/
def PropertiesKeptIn (properties later : List Property) : Prop :=
  ∃ old added, later = old ++ added ∧ List.Forall₂ Property.KeptIn properties old

/-- The later record is of the same method, with its body and its parameters. A static method
stays static. -/
structure Method.KeptIn (m later : Method) : Prop where
  name : later.name = m.name
  body : later.body = m.body
  typeParams : later.typeParams = m.typeParams
  params : List.Forall₂ Property.KeptIn m.params later.params
  isStatic : m.isStatic = some true → later.isStatic = some true

/-- The later record is of the same class, with all that the script says of it. -/
structure ClassDef.KeptIn (c later : ClassDef) : Prop where
  space : later.space = c.space
  name : later.name = c.name
  varId : later.varId = c.varId
  baseClass : later.baseClass = c.baseClass
  interfaces : later.interfaces = c.interfaces
  genericArity : later.genericArity = c.genericArity
  isEnum : later.isEnum = c.isEnum
  isFlags : later.isFlags = c.isFlags
  methods : List.Forall₂ Method.KeptIn c.methods later.methods
  properties : PropertiesKeptIn c.properties later.properties
  links : c.links <+: later.links
  isInterface : c.isInterface = some true → later.isInterface = some true

namespace Property.KeptIn

theorem refl (p : Property) : p.KeptIn p := ⟨rfl, rfl, rfl⟩

theorem trans {p q s : Property} (h : p.KeptIn q) (k : q.KeptIn s) : p.KeptIn s where
  name := k.name.trans h.name
  defaultValue := k.defaultValue.trans h.defaultValue
  isStatic := k.isStatic.trans h.isStatic

/-- Every list of properties is kept in itself. -/
theorem forall₂_refl (l : List Property) : List.Forall₂ Property.KeptIn l l :=
  List.forall₂_same.mpr fun p _ => refl p

theorem forall₂_trans {l m n : List Property} (h : List.Forall₂ Property.KeptIn l m)
    (k : List.Forall₂ Property.KeptIn m n) : List.Forall₂ Property.KeptIn l n :=
  ClassRecovery.forall₂_trans (R := Property.KeptIn) (fun _ _ _ => trans) h k

end Property.KeptIn

namespace PropertiesKeptIn

variable {l m n : List Property}

theorem of_forall₂ (h : List.Forall₂ Property.KeptIn l m) : PropertiesKeptIn l m :=
  ⟨m, [], (List.append_nil m).symm, h⟩

theorem refl (l : List Property) : PropertiesKeptIn l l := of_forall₂ (Property.KeptIn.forall₂_refl l)

theorem append (l added : List Property) : PropertiesKeptIn l (l ++ added) :=
  ⟨l, added, rfl, Property.KeptIn.forall₂_refl l⟩

theorem trans (h : PropertiesKeptIn l m) (k : PropertiesKeptIn m n) : PropertiesKeptIn l n := by
  obtain ⟨old, added, rfl, hold⟩ := h
  obtain ⟨later, more, rfl, hlater⟩ := k
  -- what was added first is a middle part of the later properties
  have hfront := List.forall₂_take old.length hlater
  rw [List.take_left] at hfront
  refine ⟨later.take old.length, later.drop old.length ++ more, ?_,
    Property.KeptIn.forall₂_trans hold hfront⟩
  rw [← List.append_assoc, List.take_append_drop]

end PropertiesKeptIn

namespace Method.KeptIn

theorem refl (m : Method) : m.KeptIn m :=
  ⟨rfl, rfl, rfl, Property.KeptIn.forall₂_refl m.params, id⟩

theorem trans {m n o : Method} (h : m.KeptIn n) (k : n.KeptIn o) : m.KeptIn o where
  name := k.name.trans h.name
  body := k.body.trans h.body
  typeParams := k.typeParams.trans h.typeParams
  params := Property.KeptIn.forall₂_trans h.params k.params
  isStatic := k.isStatic ∘ h.isStatic

theorem forall₂_refl (l : List Method) : List.Forall₂ Method.KeptIn l l :=
  List.forall₂_same.mpr fun m _ => refl m

theorem forall₂_trans {l m n : List Method} (h : List.Forall₂ Method.KeptIn l m)
    (k : List.Forall₂ Method.KeptIn m n) : List.Forall₂ Method.KeptIn l n :=
  ClassRecovery.forall₂_trans (R := Method.KeptIn) (fun _ _ _ => trans) h k

end Method.KeptIn

/-- A class is an enumeration exactly when it is marked as one. -/
theorem ClassDef.kind_eq_enum_iff {c : ClassDef} : c.kind = .enum ↔ c.isEnum.getD false = true := by
  unfold kind
  cases c.isEnum.getD false with
  | true => simp
  | false =>
      simp only [Bool.false_eq_true, if_false, iff_false]
      split
      · simp
      · split
        · simp
        · split <;> simp

namespace ClassDef.KeptIn

variable {c d e : ClassDef}

theorem refl (c : ClassDef) : c.KeptIn c :=
  ⟨rfl, rfl, rfl, rfl, rfl, rfl, rfl, rfl, Method.KeptIn.forall₂_refl c.methods,
    .refl c.properties, List.prefix_rfl, id⟩

theorem trans (h : c.KeptIn d) (k : d.KeptIn e) : c.KeptIn e where
  space := k.space.trans h.space
  name := k.name.trans h.name
  varId := k.varId.trans h.varId
  baseClass := k.baseClass.trans h.baseClass
  interfaces := k.interfaces.trans h.interfaces
  genericArity := k.genericArity.trans h.genericArity
  isEnum := k.isEnum.trans h.isEnum
  isFlags := k.isFlags.trans h.isFlags
  methods := Method.KeptIn.forall₂_trans h.methods k.methods
  properties := h.properties.trans k.properties
  links := h.links.trans k.links
  isInterface := k.isInterface ∘ h.isInterface

theorem qualifiedName_eq (h : c.KeptIn d) : d.qualifiedName = c.qualifiedName := by
  simp only [ClassDef.qualifiedName, h.space, h.name]

/-- An enumeration stays one, and so does what the script declares as an interface. -/
theorem kind_eq (h : c.KeptIn d) (hkind : c.kind = .enum ∨ c.isInterface = some true) :
    d.kind = c.kind := by
  rcases hkind with henum | hinterface
  · rw [henum, kind_eq_enum_iff, h.isEnum]
    exact kind_eq_enum_iff.mp henum
  · simp [ClassDef.kind, h.isEnum, hinterface, h.isInterface hinterface]

end ClassDef.KeptIn

namespace Fusion

/-! ## Members -/

theorem absorbProperty_keptIn (p doc : Property) : p.KeptIn (absorbProperty p doc) :=
  ⟨rfl, rfl, rfl⟩

theorem absorbParam_keptIn (params : List Property) (doc : Property) :
    List.Forall₂ Property.KeptIn params (absorbParam params doc).1 := by
  unfold absorbParam
  split
  · exact forall₂_modify .refl (fun p => absorbProperty_keptIn p doc) params _
  · exact Property.KeptIn.forall₂_refl params

theorem absorbParams_keptIn (params docs : List Property) :
    List.Forall₂ Property.KeptIn params (absorbParams params docs).1 := by
  unfold absorbParams
  refine foldl_fst_related Property.KeptIn.forall₂_refl
    (fun _ _ _ => Property.KeptIn.forall₂_trans) (fun acc doc => ?_) (params, 0) docs
  exact absorbParam_keptIn acc.1 doc

theorem absorbMethod_keptIn (m doc : Method) : m.KeptIn (absorbMethod m doc) where
  name := rfl
  body := rfl
  typeParams := rfl
  params := absorbParams_keptIn m.params doc.params
  isStatic := fun h => by simp [absorbMethod, absorbSignature, h]

theorem mergeMethod_keptIn (methods : List Method) (doc : Method) :
    List.Forall₂ Method.KeptIn methods (mergeMethod methods doc).1 := by
  unfold mergeMethod
  split
  · exact Method.KeptIn.forall₂_refl methods
  · exact forall₂_modify .refl (fun m => absorbMethod_keptIn m doc) methods _

theorem mergeProperty_keptIn (properties : List Property) (doc : Property) :
    PropertiesKeptIn properties (mergeProperty properties doc).1 := by
  unfold mergeProperty
  split
  · exact .of_forall₂ (forall₂_modify .refl (fun p => absorbProperty_keptIn p doc) properties _)
  · split
    · exact .refl properties
    · exact .append properties _

/-- What has been counted does not show in the members. -/
theorem mergeAll_fst {α : Type} (merge : List α → α → List α × Stats) (members docs : List α) :
    (mergeAll merge members docs).1
      = docs.foldl (fun members doc => (merge members doc).1) members := by
  unfold mergeAll
  generalize ({} : Stats) = stats
  induction docs generalizing members stats with
  | nil => rfl
  | cons doc rest ih => exact ih _ _

theorem mergeAll_cons_fst {α : Type} (merge : List α → α → List α × Stats) (members : List α)
    (doc : α) (docs : List α) :
    (mergeAll merge members (doc :: docs)).1 = (mergeAll merge (merge members doc).1 docs).1 := by
  rw [mergeAll_fst, mergeAll_fst]
  rfl

/-- A pass over documented members keeps what every one of them keeps. -/
theorem mergeAll_related {α : Type} {S : List α → List α → Prop} (refl : ∀ l, S l l)
    (trans : ∀ l m n, S l m → S m n → S l n) {merge : List α → α → List α × Stats}
    (hmerge : ∀ members doc, S members (merge members doc).1) (members docs : List α) :
    S members (mergeAll merge members docs).1 := by
  unfold mergeAll
  refine foldl_fst_related refl trans (fun acc doc => ?_) (members, ({} : Stats)) docs
  exact hmerge acc.1 doc

/-! ## Appended properties -/

theorem mergeProperty_length (properties : List Property) (doc : Property) :
    (mergeProperty properties doc).1.length
      = properties.length + (mergeProperty properties doc).2.appended := by
  unfold mergeProperty
  split
  · simp
  · split <;> simp

theorem mergeMethod_appended (methods : List Method) (doc : Method) :
    (mergeMethod methods doc).2.appended = 0 := by
  unfold mergeMethod
  split <;> rfl

/-- What is added on the way of a fold is counted by it. -/
theorem foldl_appended {σ α : Type} (size : σ → Nat) {step : σ × Stats → α → σ × Stats}
    (hstep : ∀ acc a,
      size (step acc a).1 + acc.2.appended = size acc.1 + (step acc a).2.appended)
    (s : σ) (l : List α) :
    size (l.foldl step (s, {})).1 = size s + (l.foldl step (s, {})).2.appended := by
  -- of any start, not only one at which nothing has been counted
  have hfold : ∀ acc : σ × Stats, size (l.foldl step acc).1 + acc.2.appended
      = size acc.1 + (l.foldl step acc).2.appended := by
    induction l with
    | nil => exact fun acc => rfl
    | cons a l ih =>
        intro acc
        have hhere := hstep acc a
        have hrest := ih (step acc a)
        rw [List.foldl_cons]
        omega
  exact hfold (s, {})

/-- What the documented members add to a list is counted by the pass over them. -/
theorem mergeAll_appended {α : Type} (size : List α → Nat) {merge : List α → α → List α × Stats}
    (hmerge : ∀ members doc,
      size (merge members doc).1 = size members + (merge members doc).2.appended)
    (members docs : List α) :
    size (mergeAll merge members docs).1
      = size members + (mergeAll merge members docs).2.appended := by
  unfold mergeAll
  refine foldl_appended size (fun acc doc => ?_) members docs
  have hdoc := hmerge acc.1 doc
  simp only [Stats.add]
  omega

/-! ## Classes -/

theorem mergeClass_keptIn (c doc : ClassDef) : c.KeptIn (mergeClass c doc).1 where
  space := rfl
  name := rfl
  varId := rfl
  baseClass := rfl
  interfaces := rfl
  genericArity := rfl
  isEnum := rfl
  isFlags := rfl
  methods :=
    mergeAll_related Method.KeptIn.forall₂_refl (fun _ _ _ => Method.KeptIn.forall₂_trans)
      mergeMethod_keptIn c.methods doc.methods
  properties :=
    mergeAll_related PropertiesKeptIn.refl (fun _ _ _ => PropertiesKeptIn.trans)
      mergeProperty_keptIn c.properties doc.properties
  links := List.prefix_append _ _
  isInterface := fun h => by simp [mergeClass, h]

theorem mergeClass_appended (c doc : ClassDef) :
    (mergeClass c doc).1.properties.length
      = c.properties.length + (mergeClass c doc).2.appended := by
  have hmethods : 0 = 0 + (mergeAll mergeMethod c.methods doc.methods).2.appended :=
    mergeAll_appended (fun _ => 0) (fun methods doc => by rw [mergeMethod_appended]) c.methods
      doc.methods
  have hproperties :=
    mergeAll_appended List.length mergeProperty_length c.properties doc.properties
  simp only [mergeClass, Stats.add]
  omega

/-- A class with all that the documentation of it says. -/
def documented (doc c : ClassDef) : ClassDef := (mergeClass { c with docId := doc.docId } doc).1

theorem documented_keptIn (doc c : ClassDef) : c.KeptIn (documented doc c) := by
  have hmerge := mergeClass_keptIn { c with docId := doc.docId } doc
  exact ⟨hmerge.space, hmerge.name, hmerge.varId, hmerge.baseClass, hmerge.interfaces,
    hmerge.genericArity, hmerge.isEnum, hmerge.isFlags, hmerge.methods, hmerge.properties,
    hmerge.links, hmerge.isInterface⟩

/-! ## Registries -/

/-- The documentation identifier of a class is set in its record, if there is such a class. -/
theorem setDocId_classes (r : Registry) (id : Nat) (docId : Option String) :
    (r.setDocId id docId).classes = r.classes.modify id fun c => { c with docId := docId } := by
  unfold Registry.setDocId
  cases hc : r.get? id with
  | none => exact (List.modify_eq_self (List.getElem?_eq_none_iff.mp hc)).symm
  | some c => rfl

/-- What the documentation of a class finds and what it counts. -/
theorem fuseClass_eq (r : Registry) (doc : ClassDef) :
    (fuseClass r doc).1.classes
        = (match r.findByName? doc.qualifiedName with
          | some id => r.classes.modify id (documented doc)
          | none => r.classes) ∧
      (fuseClass r doc).2
        = (match (r.findByName? doc.qualifiedName).bind r.get? with
          | some c => (mergeClass { c with docId := doc.docId } doc).2
          | none => {}) := by
  unfold fuseClass
  cases hid : r.findByName? doc.qualifiedName with
  | none => exact ⟨rfl, rfl⟩
  | some id =>
      have hknown : (r.setDocId id doc.docId).get? id
          = (r.get? id).map fun c => { c with docId := doc.docId } := by
        rw [Registry.get?, setDocId_classes, List.getElem?_modify_eq]
        rfl
      dsimp only [Option.bind_some]
      rw [hknown]
      cases hc : r.get? id with
      | none =>
          refine ⟨?_, rfl⟩
          have hlength := List.getElem?_eq_none_iff.mp hc
          show (r.setDocId id doc.docId).classes = _
          rw [setDocId_classes, List.modify_eq_self hlength, List.modify_eq_self hlength]
      | some c =>
          refine ⟨?_, rfl⟩
          show (r.setDocId id doc.docId).classes.modify id _ = _
          rw [setDocId_classes, List.modify_modify_eq]
          rfl

theorem fuseClass_keptIn (r : Registry) (doc : ClassDef) :
    List.Forall₂ ClassDef.KeptIn r.classes (fuseClass r doc).1.classes := by
  rw [(fuseClass_eq r doc).1]
  split
  · exact forall₂_modify ClassDef.KeptIn.refl (documented_keptIn doc) r.classes _
  · exact List.forall₂_same.mpr fun c _ => .refl c

theorem fuseClass_appended (r : Registry) (doc : ClassDef) :
    ((fuseClass r doc).1.classes.map fun c => c.properties.length).sum
      = (r.classes.map fun c => c.properties.length).sum + (fuseClass r doc).2.appended := by
  rw [(fuseClass_eq r doc).1, (fuseClass_eq r doc).2]
  cases r.findByName? doc.qualifiedName with
  | none => rfl
  | some id =>
      dsimp only [Option.bind_some]
      cases hc : r.get? id with
      | none =>
          rw [List.modify_eq_self (List.getElem?_eq_none_iff.mp hc)]
          rfl
      | some c => exact sum_map_modify hc (mergeClass_appended { c with docId := doc.docId } doc)

theorem fuse_keptIn (r docs : Registry) :
    List.Forall₂ ClassDef.KeptIn r.classes (fuse r docs).1.classes := by
  unfold fuse
  refine foldl_fst_related (S := fun r s => List.Forall₂ ClassDef.KeptIn r.classes s.classes)
    ?_ ?_ ?_ (r, ({} : Stats)) docs.classes
  · intro r
    exact List.forall₂_same.mpr fun c _ => .refl c
  · intro _ _ _ h k
    exact forall₂_trans (R := ClassDef.KeptIn) (fun _ _ _ => .trans) h k
  · intro acc doc
    exact fuseClass_keptIn acc.1 doc

/-- The properties of all classes grow by those that are counted as appended. -/
theorem fuse_appended (r docs : Registry) :
    ((fuse r docs).1.classes.map fun c => c.properties.length).sum
      = (r.classes.map fun c => c.properties.length).sum + (fuse r docs).2.appended := by
  unfold fuse
  refine foldl_appended (fun s : Registry => (s.classes.map fun c => c.properties.length).sum)
    (fun acc doc => ?_) r docs.classes
  have hdoc := fuseClass_appended acc.1 doc
  simp only [Stats.add]
  omega

/-- **Documentation never changes structure.** A fusion leaves the classes in number and order and
keeps of each all that the script says of it. An enumeration keeps its kind, and so does what the
script declares as an interface. The properties of all classes grow by as many as are counted as
appended. -/
theorem fuse_keeps (r docs : Registry) :
    List.Forall₂
        (fun c later => c.KeptIn later ∧
          (c.kind = .enum ∨ c.isInterface = some true → later.kind = c.kind))
        r.classes (fuse r docs).1.classes ∧
      ((fuse r docs).1.classes.map fun c => c.properties.length).sum
        = (r.classes.map fun c => c.properties.length).sum + (fuse r docs).2.appended :=
  ⟨(fuse_keptIn r docs).imp fun _ _ h => ⟨h, h.kind_eq⟩, fuse_appended r docs⟩

end Fusion

end ClassRecovery
