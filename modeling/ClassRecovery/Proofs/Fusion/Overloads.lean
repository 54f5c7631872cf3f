import ClassRecovery.Proofs.Fusion.Pointwise

/-!
# Documentation of overloads

A documented method is absorbed by the overload that takes its number of parameters, and if there is
none by the first method of its name. Each time the signature of the method is replaced as a whole,
so it ends up as the last documented method has it that the method has absorbed, whichever of the two
ways that one came (`signature_of_fuseClass`).

So an overload may lose the signature that is documented for it to one that is not. This happens only
if there is documentation of an overload that the class does not have, and only to the first method
of the name.
-/

set_option autoImplicit false

namespace ClassRecovery

/-- What documentation of a method replaces as a whole. -/
structure Signature where
  returnType : Option String
  description : Option String
  protection : Option Protection
  deriving DecidableEq, Repr

/-- The signature of a method. -/
def Method.signature (m : Method) : Signature := ⟨m.returnType, m.description, m.protection⟩

/-- What a method is looked up by: its name and the number of its parameters. -/
def Method.call (m : Method) : String × Nat := (m.name, m.arity)

namespace Names

variable {methods later : List Method}

/-- Only names and numbers of parameters count for a look-up. -/
theorem findOverload?_eq (methods : List Method) (doc : String) (arity : Nat) :
    findOverload? methods doc arity
      = (methods.map Method.call).findIdx? fun (name, count) =>
          denotesMethod name.toList doc.toList && count == arity := by
  rw [List.findIdx?_map]
  rfl

theorem findNamed?_eq (methods : List Method) (doc : String) :
    findNamed? methods doc
      = (methods.map Method.call).findIdx? fun (name, _) =>
          denotesMethod name.toList doc.toList := by
  rw [List.findIdx?_map]
  rfl

theorem findMethod?_congr (h : later.map Method.call = methods.map Method.call) (doc : String)
    (arity : Nat) : findMethod? later doc arity = findMethod? methods doc arity := by
  unfold findMethod?
  rw [findOverload?_eq, findNamed?_eq, h, ← findOverload?_eq, ← findNamed?_eq]

/-- A method that is found takes the number of parameters it is looked up by, or no method of the
name does and it is the first one of the name. -/
theorem findMethod?_eq_some_iff {doc : String} {arity place : Nat} :
    findMethod? methods doc arity = some place ↔
      findOverload? methods doc arity = some place ∨
        findOverload? methods doc arity = none ∧ findNamed? methods doc = some place :=
  Option.or_eq_some_iff

/-- An overload takes the number of parameters it is looked up by. -/
theorem arity_of_findOverload? {doc : String} {arity place : Nat} {m : Method}
    (hfound : findOverload? methods doc arity = some place) (hm : methods[place]? = some m) :
    m.arity = arity := by
  have hplace := List.of_findIdx?_eq_some hfound
  rw [hm] at hplace
  simp only [Bool.and_eq_true, beq_iff_eq] at hplace
  exact hplace.2

end Names

namespace Fusion

variable {methods docs : List Method} {doc m : Method} {i : Nat}

/-! ## One documented method -/

/-- The documented method is absorbed by the method at this place. -/
def resolvesTo (methods : List Method) (i : Nat) (doc : Method) : Bool :=
  Names.findMethod? methods doc.name doc.arity == some i

theorem call_absorbMethod (m doc : Method) : (absorbMethod m doc).call = m.call := by
  have harity : (absorbMethod m doc).arity = m.arity :=
    (absorbMethod_keptIn m doc).params.length_eq.symm
  rw [Method.call, harity]
  rfl

/-- Documentation does not change what methods are looked up by. -/
theorem calls_mergeMethod (methods : List Method) (doc : Method) :
    (mergeMethod methods doc).1.map Method.call = methods.map Method.call := by
  unfold mergeMethod
  split
  · rfl
  · exact Registry.map_modify_of_same fun m => call_absorbMethod m doc

theorem resolvesTo_mergeMethod (methods : List Method) (doc : Method) (i : Nat) :
    resolvesTo (mergeMethod methods doc).1 i = resolvesTo methods i := by
  funext other
  unfold resolvesTo
  rw [Names.findMethod?_congr (calls_mergeMethod methods doc)]

/-- A documented method changes the method that absorbs it. -/
theorem getElem?_mergeMethod (methods : List Method) (doc : Method) (i : Nat) :
    (mergeMethod methods doc).1[i]?
      = methods[i]?.map fun m => if resolvesTo methods i doc then absorbMethod m doc else m := by
  unfold mergeMethod resolvesTo
  cases Names.findMethod? methods doc.name doc.arity with
  | none => simp
  | some place =>
      dsimp only
      rw [List.getElem?_modify]
      simp

/-! ## All documented methods of a class -/

/-- The last documented method that is absorbed by the method at this place. -/
def lastAbsorbed? (methods docs : List Method) (i : Nat) : Option Method :=
  docs.reverse.find? (resolvesTo methods i)

/-- Of the documented methods that are absorbed at this place, the last one with this number of
parameters. -/
def lastOverload? (methods docs : List Method) (i arity : Nat) : Option Method :=
  docs.reverse.find? fun doc => resolvesTo methods i doc && doc.arity == arity

theorem lastAbsorbed?_cons (methods docs : List Method) (doc : Method) (i : Nat) :
    lastAbsorbed? methods (doc :: docs) i
      = (lastAbsorbed? methods docs i).or (if resolvesTo methods i doc then some doc else none) := by
  unfold lastAbsorbed?
  rw [List.reverse_cons, List.find?_append, List.find?_singleton]

/-- The signature of a method is that of the last documented method it absorbs. -/
theorem signature_mergeAll (methods docs : List Method) (i : Nat) :
    (mergeAll mergeMethod methods docs).1[i]?.map Method.signature
      = methods[i]?.map fun m => ((lastAbsorbed? methods docs i).getD m).signature := by
  induction docs generalizing methods with
  | nil => rfl
  | cons doc rest ih =>
      -- the documented methods after the first one are absorbed where they would have been
      have hrest : lastAbsorbed? (mergeMethod methods doc).1 rest i = lastAbsorbed? methods rest i := by
        unfold lastAbsorbed?
        rw [resolvesTo_mergeMethod]
      rw [mergeAll_cons_fst, ih, hrest, getElem?_mergeMethod, Option.map_map, lastAbsorbed?_cons]
      congr 1
      funext m
      cases lastAbsorbed? methods rest i with
      | some last => rfl
      | none =>
          by_cases hdoc : resolvesTo methods i doc = true
          · simp only [Function.comp_apply, hdoc, if_true]
            rfl
          · simp only [Function.comp_apply, hdoc]
            rfl

/-! ## The last overload and the last of all -/

/-- If the last documented method that is absorbed has this number of parameters, it is the last one
that has. -/
theorem lastOverload?_of_lastAbsorbed? {last : Method}
    (hlast : lastAbsorbed? methods docs i = some last) :
    lastOverload? methods docs i last.arity = some last := by
  unfold lastAbsorbed? at hlast
  unfold lastOverload?
  rw [List.find?_eq_some_iff_append] at hlast ⊢
  obtain ⟨hresolves, after, before, hdocs, hnone⟩ := hlast
  refine ⟨by simp [hresolves], after, before, hdocs, fun other hother => ?_⟩
  have hother' := hnone other hother
  simp only [Bool.not_eq_true'] at hother'
  simp [hother']

/-- The last documented method that is absorbed is the last overload, or the class has no overload for
it and the method is the first one of the name. -/
theorem lastAbsorbed?_cases {last : Method} (hm : methods[i]? = some m)
    (hlast : lastAbsorbed? methods docs i = some last) :
    lastOverload? methods docs i m.arity = some last ∨
      Names.findOverload? methods last.name last.arity = none ∧
        Names.findNamed? methods last.name = some i := by
  have hresolves : resolvesTo methods i last = true := List.find?_some hlast
  rcases Names.findMethod?_eq_some_iff.mp (beq_iff_eq.mp hresolves) with hoverload | hfallback
  · rw [Names.arity_of_findOverload? hoverload hm]
    exact .inl (lastOverload?_of_lastAbsorbed? hlast)
  · exact .inr hfallback

/-- Whatever documentation there is of an overload, there is a last one, and a last one of all. -/
theorem exists_lastOverload? {arity : Nat}
    (h : ∃ doc ∈ docs, resolvesTo methods i doc = true ∧ doc.arity = arity) :
    ∃ overload last, lastOverload? methods docs i arity = some overload ∧
      lastAbsorbed? methods docs i = some last := by
  obtain ⟨doc, hdoc, hresolves, harity⟩ := h
  have hmem : doc ∈ docs.reverse := List.mem_reverse.mpr hdoc
  have hoverload : (lastOverload? methods docs i arity).isSome = true :=
    List.find?_isSome.mpr ⟨doc, hmem, by simp [hresolves, harity]⟩
  have hlast : (lastAbsorbed? methods docs i).isSome = true :=
    List.find?_isSome.mpr ⟨doc, hmem, hresolves⟩
  obtain ⟨overload, hoverload⟩ := Option.isSome_iff_exists.mp hoverload
  obtain ⟨last, hlast⟩ := Option.isSome_iff_exists.mp hlast
  exact ⟨overload, last, hoverload, hlast⟩

/-! ## Classes -/

/-- **Documentation of overloads.** A documented class is absorbed by the class that is found under its
name. If a method there absorbs documentation of its own overload, it has in the end the signature of
the last documented method that it absorbs. This is the last documentation of the overload, unless
there is documentation after it of an overload that the class does not have, and the method is the
first one of that name. -/
theorem signature_of_fuseClass {r : Registry} {doc c : ClassDef} {id i : Nat} {m : Method}
    (hfound : r.findByName? doc.qualifiedName = some id) (hc : r.get? id = some c)
    (hm : c.methods[i]? = some m)
    (hoverload : ∃ d ∈ doc.methods, resolvesTo c.methods i d = true ∧ d.arity = m.arity) :
    ∃ fused later overload last,
      (fuseClass r doc).1.get? id = some fused ∧ fused.methods[i]? = some later ∧
        lastOverload? c.methods doc.methods i m.arity = some overload ∧
        lastAbsorbed? c.methods doc.methods i = some last ∧
        later.signature = last.signature ∧
        (last = overload ∨
          Names.findOverload? c.methods last.name last.arity = none ∧
            Names.findNamed? c.methods last.name = some i) := by
  obtain ⟨overload, last, hoverload, hlast⟩ := exists_lastOverload? hoverload
  have hfused : (fuseClass r doc).1.get? id = some (documented doc c) := by
    rw [get?_fuseClass, hc, Option.map_some, if_pos hfound]
  have hsignature := signature_mergeAll c.methods doc.methods i
  rw [hm, hlast, Option.map_some, Option.getD_some, Option.map_eq_some_iff] at hsignature
  obtain ⟨later, hlater, hsignature⟩ := hsignature
  refine ⟨documented doc c, later, overload, last, hfused, hlater, hoverload, hlast, hsignature, ?_⟩
  rcases lastAbsorbed?_cases hm hlast with hlastOverload | hfallback
  · rw [hoverload] at hlastOverload
    exact .inl (Option.some.inj hlastOverload).symm
  · exact .inr hfallback

/-- Documentation of another overload, then of the one that there is. -/
theorem signature_of_fuseClass_of_earlier_fallback :
    let own : Method := { name := "Run", params := [{ name := "a" }], returnType := some "string" }
    let other : Method :=
      { name := "Run", params := [{ name := "a" }, { name := "b" }], returnType := some "number" }
    let run : Method := { name := "run", params := [{ name := "a" }] }
    let c : ClassDef := { space := "N", name := "A", methods := [run] }
    ∃ fused later,
      (fuseClass (Registry.ofList [c]) { c with methods := [other, own] }).1.get? 0 = some fused ∧
        fused.methods[0]? = some later ∧ later.signature = own.signature := by
  intro own other run c
  have hfound : (Registry.ofList [c]).findByName?
      (ClassDef.qualifiedName { c with methods := [other, own] }) = some 0 := by decide +kernel
  have hc : (Registry.ofList [c]).get? 0 = some c := rfl
  have hrun : c.methods[0]? = some run := rfl
  have hown : ∃ d ∈ [other, own], resolvesTo c.methods 0 d = true ∧ d.arity = run.arity :=
    ⟨own, by decide, by decide +kernel, rfl⟩
  obtain ⟨fused, later, overload, last, hfused, hlater, -, hlast, hsignature, -⟩ :=
    signature_of_fuseClass hfound hc hrun hown
  have hlastOwn : lastAbsorbed? c.methods [other, own] 0 = some own := by decide +kernel
  rw [hlastOwn] at hlast
  cases hlast
  exact ⟨fused, later, hfused, hlater, hsignature⟩

/-- An overload loses the signature that is documented for it to later documentation of an overload
that there is not. -/
theorem signature_of_fuseClass_of_later_fallback :
    let own : Method := { name := "Run", params := [{ name := "a" }], returnType := some "string" }
    let other : Method :=
      { name := "Run", params := [{ name := "a" }, { name := "b" }], returnType := some "number" }
    let run : Method := { name := "run", params := [{ name := "a" }] }
    let c : ClassDef := { space := "N", name := "A", methods := [run] }
    lastOverload? c.methods [own, other] 0 run.arity = some own ∧
      (((fuseClass (Registry.ofList [c]) { c with methods := [own, other] }).1.get? 0).bind
          fun c => c.methods[0]?).map Method.signature = some other.signature ∧
      other.signature ≠ own.signature := by
  decide +kernel

end Fusion

end ClassRecovery
