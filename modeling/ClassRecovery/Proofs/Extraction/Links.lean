import ClassRecovery.Model.Json
import ClassRecovery.Proofs.Extraction.Variables
import ClassRecovery.Proofs.Model.Duplicates

/-!
# Links between classes

A link is a text, and a class answers to it by its documentation identifier, its variable or its
qualified name. `referent?` tells the class a link refers to from the list of classes alone: the
last one by documentation identifier, if there is none the last one by variable, and else the last
one by name.

A finished model resolves its links so, because its indexes are the ones computed from its classes:
an extraction ends by computing them, and a registry that is read from a list has them all along
(`Registry.IsRebuilt`). So the links that are reported are the dangling ones, and all of them
(`unresolvedLinks_of_model`).
-/

set_option autoImplicit false

namespace ClassRecovery

/-- The class is referred to by this link, in one way or another. -/
def ClassDef.answersTo (c : ClassDef) (link : String) : Bool :=
  c.docId == some link || c.varId == some link || c.qualifiedName == link

/-- The class that a link refers to among these: the last one by documentation identifier, by
variable, or by qualified name, in this order of preference. -/
def referent? (classes : List ClassDef) (link : String) : Option ClassDef :=
  (classes.reverse.find? fun c => c.docId == some link).or
    ((classes.reverse.find? fun c => c.varId == some link).or
      (classes.reverse.find? fun c => c.qualifiedName == link))

theorem referent?_eq_none_iff {classes : List ClassDef} {link : String} :
    referent? classes link = none ↔ ∀ c ∈ classes, c.answersTo link = false := by
  simp only [referent?, Option.or_eq_none_iff, List.find?_eq_none, List.mem_reverse,
    ClassDef.answersTo, Bool.or_eq_false_iff, Bool.not_eq_true, ← forall_and, and_assoc]

/-! ## Indexes computed from the classes -/

/-- The index of the keys of a list leads to the last element with the key. -/
theorem Index.find?_ofKeys_bind {α : Type} (key : α → Option String) (l : List α) (name : String) :
    ((ofKeys (l.map key)).find? name).bind (l[·]?)
      = l.reverse.find? fun a => key a == some name := by
  induction l using List.reverseRecOn with
  | nil => rfl
  | append_singleton l last ih =>
      rw [List.map_append, List.map_singleton, ofKeys_append, find?_bindSome, List.length_map,
        List.reverse_concat]
      by_cases hlast : some name = key last
      · have hfirst : (key last == some name) = true := beq_iff_eq.mpr hlast.symm
        rw [if_pos hlast, Option.bind_some, List.getElem?_concat_length, List.find?_cons, hfirst]
      · rw [if_neg hlast, List.find?_cons_of_neg (by simpa using Ne.symm hlast), ← ih]
        -- what was found before stands before the last element
        refine Option.bind_congr fun id hid => ?_
        have hlt := (List.getElem?_eq_some_iff.mp (find?_ofKeys_eq_some_iff.mp hid).1).1
        rw [List.length_map] at hlt
        exact List.getElem?_append_left hlt

namespace Registry

variable {r : Registry} {link : String}

/-- What an index with these keys finds is a class. -/
theorem isSome_get?_of_find? {key : ClassDef → Option String} {id : Nat}
    (hfound : (Index.ofKeys (r.classes.map key)).find? link = some id) :
    (r.get? id).isSome = true := by
  have hkey := (Index.find?_ofKeys_eq_some_iff.mp hfound).1
  rw [List.getElem?_map, Option.map_eq_some_iff] at hkey
  obtain ⟨c, hc, -⟩ := hkey
  rw [get?, hc]
  rfl

/-- Of two lookups the first one counts if it finds a class. -/
theorem bind_get?_or {first second : Option Nat}
    (h : ∀ id, first = some id → (r.get? id).isSome = true) :
    (first.or second).bind r.get? = (first.bind r.get?).or (second.bind r.get?) := by
  cases first with
  | none => simp only [Option.none_or, Option.bind_none]
  | some id =>
      obtain ⟨c, hc⟩ := Option.isSome_iff_exists.mp (h id rfl)
      rw [Option.some_or, Option.bind_some, hc, Option.some_or]

/-- With indexes computed from the classes, a link leads to the class it refers to. -/
theorem resolve?_eq_referent? (h : r.IsRebuilt) (link : String) :
    r.resolve? link = referent? r.classes link := by
  rw [IsRebuilt, rebuildIndexes_eq] at h
  have hdoc : r.byDoc = Index.ofKeys (r.classes.map ClassDef.docId) := congrArg byDoc h.symm
  have hvar : r.byVar = Index.ofKeys (r.classes.map ClassDef.varId) := congrArg byVar h.symm
  have hname : r.byName = Index.ofKeys (r.classes.map fun c => some c.qualifiedName) := by
    rw [← congrArg byName h, names, List.map_map]
    rfl
  unfold resolve? findByDoc? findByVar? findByName?
  rw [hdoc, hvar, hname, bind_get?_or fun _ => isSome_get?_of_find?,
    bind_get?_or fun _ => isSome_get?_of_find?]
  show (Option.bind _ (r.classes[·]?)).or
    ((Option.bind _ (r.classes[·]?)).or (Option.bind _ (r.classes[·]?))) = _
  rw [Index.find?_ofKeys_bind, Index.find?_ofKeys_bind, Index.find?_ofKeys_bind]
  rfl

/-- The links of a class that lead to no class of a registry, with the name of the class. -/
def danglingOf (r : Registry) (c : ClassDef) : List (String × String) :=
  (c.links.filter fun link => (r.resolve? link).isNone).map fun link => (c.qualifiedName, link)

theorem danglingOf_linkedClasses (r : Registry) (id : Nat) :
    (((r.linkedClasses id).filter fun link => link.2.isNone).map fun link => (r.nameOf id, link.1))
      = (r.get? id).elim [] r.danglingOf := by
  unfold linkedClasses nameOf danglingOf
  cases r.get? id with
  | none => rfl
  | some c => simp [List.filter_map, Function.comp_def]

end Registry

namespace RecoveredModel

variable {model : RecoveredModel}

/-- The links that are reported are those among the links of each class that lead to no class. -/
theorem unresolvedLinks_eq_linkedClasses (model : RecoveredModel) :
    model.unresolvedLinks = (List.range model.registry.size).flatMap fun id =>
      ((model.registry.linkedClasses id).filter fun link => link.2.isNone).map
        fun link => (model.registry.nameOf id, link.1) := by
  have hclasses : model.classes.map some
      = (List.range model.registry.size).map model.registry.get? :=
    List.ext_getElem (by simp [Registry.size, classes]) (by simp [Registry.get?, classes])
  calc model.unresolvedLinks
      = (model.classes.map some).flatMap (Option.elim · [] model.registry.danglingOf) := by
        rw [List.flatMap_map]
        rfl
    _ = (List.range model.registry.size).flatMap fun id =>
          (model.registry.get? id).elim [] model.registry.danglingOf := by
        rw [hclasses, List.flatMap_map]
    _ = _ := by simp only [Registry.danglingOf_linkedClasses]

/-- With indexes computed from the classes, the links that are reported are the dangling ones. -/
theorem unresolvedLinks_eq (h : model.registry.IsRebuilt) :
    model.unresolvedLinks = model.classes.flatMap fun c =>
      (c.links.filter fun link => model.classes.all fun d => !d.answersTo link).map
        fun link => (c.qualifiedName, link) := by
  have hdangling (link : String) : (model.registry.resolve? link).isNone
      = model.classes.all fun d => !d.answersTo link := by
    rw [Bool.eq_iff_iff, Registry.resolve?_eq_referent? h, Option.isNone_iff_eq_none,
      referent?_eq_none_iff, List.all_eq_true]
    simp only [Bool.not_eq_true']
    rfl
  unfold unresolvedLinks
  simp only [hdangling]

/-- A model that is read from a text has the registry of a list of classes. -/
theorem exists_ofList_of_parse? {text : String} (h : parse? text = some model) :
    ∃ classes, model.registry = Registry.ofList classes := by
  obtain ⟨value, -, h⟩ := Option.bind_eq_some_iff.mp h
  unfold ofJson? at h
  obtain ⟨fields, -, h⟩ := Option.bind_eq_some_iff.mp h
  split at h
  · obtain ⟨assembly, -, h⟩ := Option.bind_eq_some_iff.mp h
    obtain ⟨registry, hregistry, h⟩ := Option.bind_eq_some_iff.mp h
    obtain ⟨globals, -, h⟩ := Option.bind_eq_some_iff.mp h
    cases h
    obtain ⟨field, -, hregistry⟩ := Option.bind_eq_some_iff.mp hregistry
    obtain ⟨classes, -, rfl⟩ := Option.map_eq_some_iff.mp hregistry
    exact ⟨classes, rfl⟩
  · cases h

end RecoveredModel

open Extraction RecoveredModel

/-- **Links of a finished model.** In a model that an extraction ends with or that is read from a
text, every link leads to the class that it refers to. The links that are reported, in the order of
classes and of the links of a class and as often as they are there, are the ones to which no class
answers. -/
theorem unresolvedLinks_of_model {model : RecoveredModel}
    (finished : (∃ (files : Files Id) (config : Config) (dump : String) (docs : Option String),
        (run files config dump docs).run = Except.ok model) ∨
      ∃ text, parse? text = some model) :
    (model.unresolvedLinks = model.classes.flatMap fun c =>
        (c.links.filter fun link => model.classes.all fun d => !d.answersTo link).map
          fun link => (c.qualifiedName, link)) ∧
      ∀ link, model.registry.resolve? link = referent? model.classes link := by
  have hindexed : model.registry.IsRebuilt := by
    rcases finished with ⟨files, config, dump, docs, accepted⟩ | ⟨text, hparse⟩
    · obtain ⟨ignoreText, -, hrecover⟩ := recover_of_run accepted
      obtain ⟨recovered, fused, -, -, rfl⟩ := recover_eq_ok_iff.mp hrecover
      exact .rebuildIndexes _
    · obtain ⟨classes, hclasses⟩ := exists_ofList_of_parse? hparse
      rw [hclasses]
      exact Registry.ofList_isRebuilt classes
  exact ⟨unresolvedLinks_eq hindexed, Registry.resolve?_eq_referent? hindexed⟩

/-- A text with a link that two classes answer to, by documentation identifier and by name, and one
that no class answers to. -/
def linkedText : String :=
  "\x7b\x22assembly_name\x22:\x22\x22,\x22globals\x22:[],\x22classes\x22:["
    ++ "\x7b\x22namespace\x22:\x22N\x22,\x22name\x22:\x22A\x22,"
    ++ "\x22links\x22:[\x22N.B\x22,\x22gone\x22,\x22gone\x22],\x22doc_id\x22:\x22N.B\x22\x7d,"
    ++ "\x7b\x22namespace\x22:\x22N\x22,\x22name\x22:\x22B\x22\x7d]\x7d"

theorem unresolvedLinks_of_linkedText :
    ∃ model, parse? linkedText = some model ∧
      model.unresolvedLinks = [("N.A", "gone"), ("N.A", "gone")] ∧
      (model.registry.resolve? "N.B").map ClassDef.name = some "A" := by
  have hread : (parse? linkedText).map RecoveredModel.classes
      = some [{ space := "N", name := "A", docId := some "N.B", links := ["N.B", "gone", "gone"] },
          { space := "N", name := "B" }] := by
    decide +kernel
  obtain ⟨model, hmodel, hclasses⟩ := Option.map_eq_some_iff.mp hread
  obtain ⟨hlinks, hresolve⟩ := unresolvedLinks_of_model (.inr ⟨_, hmodel⟩)
  rw [hclasses] at hlinks hresolve
  refine ⟨model, hmodel, hlinks.trans ?_, ?_⟩
  · decide +kernel
  · rw [hresolve]
    decide +kernel

end ClassRecovery
