import ClassRecovery.Proofs.Model.Json
import ClassRecovery.Proofs.Model.Operations

/-!
# Lists of classes with repeated names

A list of classes may name a class more than once, as a written model or a documentation may. Its
registry has one class for each name, where the name first occurs, and it is the last class that
the list has under it (`classes_ofList`).

A class that is new extends the indexes, and one that takes the place of another has them computed
anew, since a variable or a documentation identifier may be gone with the class that is replaced.
Either way the indexes are the ones computed from the classes (`IsRebuilt.upsert`).
-/

set_option autoImplicit false

namespace ClassRecovery

/-- One more element at the end is kept if it is new. -/
theorem eraseDups_concat {α : Type} [DecidableEq α] (l : List α) (a : α) :
    (l ++ [a]).eraseDups = if a ∈ l then l.eraseDups else l.eraseDups ++ [a] := by
  rw [List.eraseDups_append]
  by_cases h : a ∈ l
  · simp [h, List.removeAll]
  · simp [h, List.removeAll, List.eraseDups_cons]

namespace Registry

variable {r : Registry} {c : ClassDef}

/-! ## Indexes that a rebuild leaves alone -/

/-- The indexes are the ones computed from the classes. -/
def IsRebuilt (r : Registry) : Prop := r.rebuildIndexes = r

namespace IsRebuilt

theorem empty : IsRebuilt {} := rfl

theorem rebuildIndexes (r : Registry) : r.rebuildIndexes.IsRebuilt := by
  unfold IsRebuilt
  rw [rebuildIndexes_eq, rebuildIndexes_eq]
  rfl

/-- The entries of a class that comes to the end are the last ones of a rebuild. -/
theorem append (h : r.IsRebuilt) (c : ClassDef) : (r.append c).IsRebuilt := by
  calc (r.append c).rebuildIndexes
      = (Registry.rebuildIndexes { classes := r.classes }).append c :=
        rebuildIndexes_concat r.classes c
    _ = r.append c := congrArg (Registry.append · c) h

theorem upsert (h : r.IsRebuilt) (c : ClassDef) : (r.upsert c).2.IsRebuilt := by
  unfold Registry.upsert
  split
  · exact .rebuildIndexes _
  · exact h.append c

end IsRebuilt

/-! ## The registry of a list -/

theorem ofList_isRebuilt (classes : List ClassDef) : (ofList classes).IsRebuilt := by
  induction classes using List.reverseRecOn with
  | nil => exact .empty
  | append_singleton classes c ih =>
      rw [ofList_concat]
      exact ih.upsert c

/-- There is one class for each name, in the order in which the names first occur. -/
theorem names_ofList (classes : List ClassDef) :
    (ofList classes).names = (classes.map ClassDef.qualifiedName).eraseDups := by
  induction classes using List.reverseRecOn with
  | nil => rfl
  | append_singleton classes c ih =>
      have hindexed := ofList_namesIndexed classes
      have hmem : c.qualifiedName ∈ (ofList classes).names ↔
          c.qualifiedName ∈ classes.map ClassDef.qualifiedName := by
        rw [ih, List.mem_eraseDups]
      rw [ofList_concat, List.map_append, List.map_singleton, eraseDups_concat, ← ih]
      by_cases hknown : c.qualifiedName ∈ (ofList classes).names
      · rw [if_pos (hmem.mp hknown), hindexed.names_upsert_of_known hknown]
      · rw [if_neg (mt hmem.mpr hknown), hindexed.upsert_of_fresh hknown, names_append]

/-- The class of a name is the last one that the list has under it. -/
theorem classes_ofList (classes : List ClassDef) :
    (ofList classes).classes.map some
      = (classes.map ClassDef.qualifiedName).eraseDups.map fun name =>
          classes.reverse.find? fun c => c.qualifiedName == name := by
  rw [← names_ofList, names, List.map_map]
  refine List.map_congr_left fun c hc => ?_
  exact (mem_ofList_iff.mp hc).symm

/-- The classes of a registry of distinct names make that registry again. -/
theorem ofList_classes (hnodup : r.names.Nodup) (h : r.IsRebuilt) : ofList r.classes = r := by
  calc ofList r.classes = Registry.rebuildIndexes { classes := r.classes } :=
        ofList_eq_rebuildIndexes hnodup
    _ = r := h

/-- **Reading a list of classes.** From any list, repeated names among it, a registry is made that
has one class for each name, in the order in which the names first occur, and that class is the last
one that the list has under the name. Its indexes are the ones computed from its classes, and its
own classes make the same registry again. The registry is also what is read from the list as it is
written. -/
theorem ofList_deduplicates (classes : List ClassDef) :
    (ofList classes).names = (classes.map ClassDef.qualifiedName).eraseDups ∧
      (ofList classes).names.Nodup ∧
      (ofList classes).classes.map some
        = (ofList classes).names.map (fun name =>
            classes.reverse.find? fun c => c.qualifiedName == name) ∧
      (ofList classes).rebuildIndexes = ofList classes ∧
      ofList (ofList classes).classes = ofList classes ∧
      ofJson? (.array (classes.map ClassDef.toJson)) = some (ofList classes) := by
  have hnodup := nodup_names_ofList classes
  have hrebuilt := ofList_isRebuilt classes
  refine ⟨names_ofList classes, hnodup, ?_, hrebuilt, ofList_classes hnodup hrebuilt, ?_⟩
  · rw [names_ofList]
    exact classes_ofList classes
  · exact ofJson?_toJson { classes := classes }

/-- A class that is replaced takes its documentation identifier with it, and leaves the variable
that it shared with another class to that one. -/
example :
    let classes : List ClassDef :=
      [{ space := "N", name := "A", varId := some "$A", docId := some "d" },
       { space := "N", name := "B", varId := some "$A" }, { space := "N", name := "A" }]
    (ofList classes).names = ["N.A", "N.B"] ∧ (ofList classes).findByVar? "$A" = some 1 ∧
      (ofList classes).findByDoc? "d" = none := by
  decide +kernel

end Registry

end ClassRecovery
