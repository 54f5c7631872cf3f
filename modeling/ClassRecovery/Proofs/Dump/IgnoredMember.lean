import ClassRecovery.Proofs.Dump.ClassRecord
import ClassRecovery.Proofs.Dump.Growth
import ClassRecovery.Proofs.Dump.IgnoreList

/-!
# Ignored members

A method or a property whose key is ignored is left out wherever a member list, a static method or
a static property would add it. The initializer block is the one construct that adds properties
without asking the ignore list: `ignored_members_of_recover` says that methods are never let in,
and that an ignored property is let in exactly where such a block assigns it.

The invariant of a run is `State.Respects`: its parameter `Declared` stands for the assignments of
initializer blocks, so methods and properties are followed by one induction.
-/

set_option autoImplicit false

namespace ClassRecovery

/-- No method of the class but a constructor is ignored, and no property is unless one has been
declared by an initializer block. -/
structure ClassDef.Respects (ignore : IgnoreList) (Declared : Prop) (c : ClassDef) : Prop where
  methods : ∀ m ∈ c.methods, m.isConstructor = false → ignore.contains (c.memberKey m.name) = false
  properties : ∀ p ∈ c.properties, ignore.contains (c.memberKey p.name) = true → Declared

namespace Dump

/-! ## Declarations of ignored properties -/

/-- The line of an initializer block declares a property that is ignored. -/
def declaresIgnored (ignore : IgnoreList) (registry : Registry) (line : String) : Bool :=
  (declared? registry line).any fun (id, property) =>
    (registry.get? id).any fun c => ignore.contains (c.memberKey property.name)

/-- An initializer block begins here, and one of its lines declares a property that is ignored. -/
def Visit.declaresIgnored (ignore : IgnoreList) (v : Visit) : Bool :=
  v.shape == some .initializerBlock
    && (linesBefore (startsWith "\t\x7d)();") v.rest).any
      (Dump.declaresIgnored ignore v.state.registry)

variable {ignore : IgnoreList} {registry : Registry} {line : String}

theorem declaresIgnored_iff :
    declaresIgnored ignore registry line = true ↔
      ∃ id property c, declared? registry line = some (id, property) ∧
        registry.get? id = some c ∧ ignore.contains (c.memberKey property.name) = true := by
  unfold declaresIgnored
  rw [Option.any_eq_true]
  constructor
  · rintro ⟨⟨id, property⟩, hdeclared, h⟩
    obtain ⟨c, hc, hignored⟩ := (Option.any_eq_true _ _).mp h
    exact ⟨id, property, c, hdeclared, hc, hignored⟩
  · rintro ⟨id, property, c, hdeclared, hc, hignored⟩
    exact ⟨(id, property), hdeclared, (Option.any_eq_true _ _).mpr ⟨c, hc, hignored⟩⟩

end Dump

/-! ## Classes -/

namespace ClassDef.Respects

open Dump

variable {ignore now : IgnoreList} {Declared : Prop} {c d : ClassDef}

theorem of_empty (methods : c.methods = []) (properties : c.properties = []) :
    c.Respects ignore Declared where
  methods := by simp [methods]
  properties := by simp [properties]

/-- A class goes on respecting the list when it gets members that are not ignored. -/
theorem extend {methods : List Method} {properties : List Property}
    (h : c.Respects ignore Declared) (name : d.qualifiedName = c.qualifiedName)
    (hmethods : d.methods = c.methods ++ methods)
    (hproperties : d.properties = c.properties ++ properties)
    (newMethods : ∀ m ∈ methods, m.isConstructor = false →
      ignore.contains (c.memberKey m.name) = false)
    (newProperties : ∀ p ∈ properties, ignore.contains (c.memberKey p.name) = true → Declared) :
    d.Respects ignore Declared := by
  have hkey (member : String) : d.memberKey member = c.memberKey member := by
    simp only [memberKey, name]
  constructor
  · intro m hm
    rw [hmethods, List.mem_append] at hm
    rw [hkey]
    exact hm.elim (h.methods m) (newMethods m)
  · intro p hp
    rw [hproperties, List.mem_append] at hp
    rw [hkey]
    exact hp.elim (h.properties p) (newProperties p)

/-- A class goes on respecting the list when its members do not change. -/
theorem same (h : c.Respects ignore Declared) (name : d.qualifiedName = c.qualifiedName)
    (hmethods : d.methods = c.methods) (hproperties : d.properties = c.properties) :
    d.Respects ignore Declared :=
  h.extend name (by rw [hmethods, List.append_nil]) (by rw [hproperties, List.append_nil])
    (by simp) (by simp)

theorem addConstructor (h : c.Respects ignore Declared) (cleaner : Cleaner) (params : String)
    (body : List String) :
    (Dump.addConstructor cleaner params body c).Respects ignore Declared := by
  refine h.extend rfl rfl (List.append_nil _).symm ?_ (by simp)
  intro m hm hconstructor
  rw [List.mem_singleton] at hm
  subst hm
  cases hconstructor

variable (known : ∀ name, ignore.contains name = true → now.contains name = true)

include known

theorem addStaticMethod (h : c.Respects ignore Declared) (cleaner : Cleaner) (member : String)
    (parts : FunctionParts) :
    (Dump.addStaticMethod now cleaner member parts c).Respects ignore Declared := by
  unfold Dump.addStaticMethod
  split_ifs with hignored
  · exact h
  · refine h.extend rfl rfl (List.append_nil _).symm ?_ (by simp)
    intro m hm _
    rw [List.mem_singleton] at hm
    subst hm
    exact IgnoreList.contains_eq_false known (by simpa using hignored)

theorem addMembers (h : c.Respects ignore Declared) (cleaner : Cleaner) (members : List Member) :
    (Dump.addMembers now cleaner members c).Respects ignore Declared := by
  have hkept {member : Member}
      (hmember : member ∈ members.filter fun member => !now.contains (c.memberKey member.name)) :
      ignore.contains (c.memberKey member.name) = false := by
    obtain ⟨-, hnot⟩ := List.mem_filter.mp hmember
    exact IgnoreList.contains_eq_false known (by simpa using hnot)
  refine h.extend rfl rfl rfl ?_ ?_
  · intro m hm _
    obtain ⟨member, hmember, hm⟩ := List.mem_filterMap.mp hm
    cases member with
    | method name parts => cases hm; exact hkept hmember
    | property name value => cases hm
  · intro p hp hignored
    obtain ⟨member, hmember, hp⟩ := List.mem_filterMap.mp hp
    cases member with
    | method name parts => cases hp
    | property name value =>
        cases hp
        rw [show ignore.contains (c.memberKey name) = false from hkept hmember] at hignored
        cases hignored

theorem bulk (h : c.Respects ignore Declared) (cleaner : Cleaner) (change : BulkChange) :
    (change.apply now cleaner c).Respects ignore Declared := by
  cases change with
  | classMembers members trailer =>
      have hmembers := h.addMembers known cleaner members
      cases trailer <;> exact hmembers.same rfl rfl rfl
  | interfaceMembers members bases => exact (h.addMembers known cleaner members).same rfl rfl rfl
  | enumMembers members flags => exact (h.addMembers known cleaner members).same rfl rfl rfl
  | arity count => exact h.same rfl rfl rfl

theorem addStaticProperty (h : c.Respects ignore Declared) (member value : String) :
    ClassDef.Respects ignore Declared
      (if now.contains (c.memberKey member) then c
      else addProperty { name := member, defaultValue := some value, isStatic := some true } c) := by
  split_ifs with hlisted
  · exact h
  · refine h.extend rfl (List.append_nil _).symm rfl (by simp) ?_
    intro p hp hignored
    rw [List.mem_singleton] at hp
    subst hp
    have hkept : ignore.contains (c.memberKey member) = false :=
      IgnoreList.contains_eq_false known (by simpa using hlisted)
    rw [hkept] at hignored
    cases hignored

end ClassDef.Respects

namespace Dump

variable {ignore : IgnoreList} {Declared : Prop} {registry : Registry} {cleaner : Cleaner}
  {st next : State}

/-! ## Registries -/

/-- All classes of the registry respect the list. -/
def RegistryRespects (ignore : IgnoreList) (Declared : Prop) (registry : Registry) : Prop :=
  ∀ id c, registry.get? id = some c → c.Respects ignore Declared

namespace RegistryRespects

/-- A line of an initializer block lets in an ignored property only if it declares one. -/
theorem declare (h : RegistryRespects ignore Declared registry) {line : String}
    (hline : declaresIgnored ignore registry line = true → Declared) :
    RegistryRespects ignore Declared (declare registry line) := by
  unfold Dump.declare
  cases hdeclared : declared? registry line with
  | none => exact h
  | some found =>
      obtain ⟨id, property⟩ := found
      refine Registry.All.modify h id fun c hc hrespects => ?_
      refine hrespects.extend rfl (List.append_nil _).symm rfl (by simp) ?_
      intro p hp hignored
      rw [List.mem_singleton] at hp
      subst hp
      exact hline (declaresIgnored_iff.mpr ⟨id, p, c, hdeclared, hc, hignored⟩)

end RegistryRespects

/-- Declaring a property does not change which lines declare an ignored one. -/
theorem declaresIgnored_declare (line other : String) :
    declaresIgnored ignore (declare registry line) other
      = declaresIgnored ignore registry other := by
  have hdeclared : declared? (declare registry line) other = declared? registry other := by
    unfold declared?
    rw [show (declare registry line).findByVar? = registry.findByVar? from
      funext declare_findByVar?]
  have hkey (id : Nat) (member : String) :
      ((declare registry line).get? id).any (fun c => ignore.contains (c.memberKey member))
        = (registry.get? id).any fun c => ignore.contains (c.memberKey member) := by
    unfold declare
    cases declared? registry line with
    | none => rfl
    | some found =>
        obtain ⟨place, property⟩ := found
        dsimp only
        rw [Registry.get?_modify]
        cases registry.get? id with
        | none => rfl
        | some c => by_cases hplace : place = id <;> simp [hplace, addProperty, ClassDef.memberKey,
            ClassDef.qualifiedName]
  unfold declaresIgnored
  rw [hdeclared]
  simp only [hkey]

theorem RegistryRespects.declareAll (h : RegistryRespects ignore Declared registry)
    {lines : List String}
    (hlines : ∀ line ∈ lines, declaresIgnored ignore registry line = true → Declared) :
    RegistryRespects ignore Declared (lines.foldl Dump.declare registry) := by
  induction lines generalizing registry with
  | nil => exact h
  | cons line rest ih =>
      rw [List.forall_mem_cons] at hlines
      refine ih (h.declare hlines.1) ?_
      simpa only [declaresIgnored_declare] using hlines.2

/-- A line that declares an ignored property lets it in, and it stays. -/
theorem exists_ignored_of_declareAll {lines : List String} {line : String} (hline : line ∈ lines)
    (h : declaresIgnored ignore registry line = true) :
    ∃ id c, (lines.foldl declare registry).get? id = some c ∧
      ∃ p ∈ c.properties, ignore.contains (c.memberKey p.name) = true := by
  induction lines generalizing registry with
  | nil => cases hline
  | cons first rest ih =>
      rcases List.mem_cons.mp hline with rfl | hline
      · obtain ⟨id, property, c, hdeclared, hc, hignored⟩ := declaresIgnored_iff.mp h
        have hdeclare : (declare registry line).get? id = some (addProperty property c) := by
          unfold declare
          rw [hdeclared]
          simp only [Registry.get?_modify, hc, Option.map_some, if_true]
        -- the lines after it only add properties
        obtain ⟨d, hd, hextends⟩ := declareAll_extends (declare registry line) rest id _ hdeclare
        refine ⟨id, d, hd, property, hextends.properties.subset (by simp [addProperty]), ?_⟩
        rw [hextends.memberKey_eq]
        exact hignored
      · exact ih hline (by rw [declaresIgnored_declare]; exact h)

/-! ## States -/

/-- All records of classes that the state keeps respect the list, and the state ignores every name
on it. -/
structure State.Respects (ignore : IgnoreList) (Declared : Prop) (st : State) : Prop where
  registered : RegistryRespects ignore Declared st.registry
  current : ∀ c, st.KeepsApart c → c.Respects ignore Declared
  known : ∀ name, ignore.contains name = true → st.ignore.contains name = true

namespace State.Respects

theorem initial (ignore : IgnoreList) (Declared : Prop) :
    (State.initial ignore).Respects ignore Declared where
  registered := fun _ _ hc => by cases hc
  current := fun c hc => by rcases hc with hc | hc <;> cases hc
  known := fun _ h => h

theorem allClasses (h : st.Respects ignore Declared) :
    st.AllClasses (ClassDef.Respects ignore Declared) :=
  ⟨h.registered, h.current⟩

theorem modifyCurrent (h : st.Respects ignore Declared) {f : ClassDef → ClassDef}
    (hf : ∀ c, ClassDef.Respects ignore Declared c → (f c).Respects ignore Declared) :
    (st.modifyCurrent f).Respects ignore Declared := by
  obtain ⟨hregistered, hcurrent⟩ := h.allClasses.modifyCurrent hf
  refine ⟨hregistered, hcurrent, fun name hname => ?_⟩
  rw [modifyCurrent_ignore]
  exact h.known name hname

end State.Respects

theorem constructed_respects {c : ClassDef} {varId params : String} {body : List String}
    (h : c.Respects ignore Declared) :
    (constructed cleaner c varId params body).Respects ignore Declared := by
  have hvar : ClassDef.Respects ignore Declared { c with varId := some varId } := h.same rfl rfl rfl
  exact hvar.addConstructor cleaner params body

theorem constructs_respects {varId params : String} {body : List String}
    (h : st.Respects ignore Declared) (hconstructs : Constructs cleaner varId params body st next) :
    next.Respects ignore Declared := by
  obtain ⟨hregistered, hcurrent⟩ :=
    h.allClasses.constructs (fun _ hc => constructed_respects hc) hconstructs
  refine ⟨hregistered, hcurrent, fun name hname => ?_⟩
  cases hconstructs with
  | detached =>
      dsimp only
      exact IgnoreList.contains_insert_of_contains (h.known name hname)
  | nothing | registered | extended => exact h.known name hname

/-- An action keeps the list respected, if the class it names does and no line of its initializer
block declares an ignored property unawares. -/
theorem perform_respects {action : Action} (h : st.Respects ignore Declared)
    (hnamed : ∀ c, action = .className c → c.Respects ignore Declared)
    (hblock : ∀ lines, action = .initializer lines → ∀ line ∈ lines,
      declaresIgnored ignore st.registry line = true → Declared)
    (hperform : perform cleaner st action = .ok next) : next.Respects ignore Declared := by
  cases action with
  | nothing => cases hperform; exact h
  | assignment line target value =>
      cases hperform
      unfold addGlobalAssignment
      split
      · exact h
      · exact ⟨h.registered, h.current, h.known⟩
  | block | assembly => cases hperform; exact ⟨h.registered, h.current, h.known⟩
  | separator =>
      cases hperform
      refine ⟨h.registered, fun c hc => ?_, h.known⟩
      rcases hc with hc | hc <;> cases hc
  | className c =>
      cases hperform
      refine ⟨h.registered, fun d hd => ?_, h.known⟩
      rcases hd with hd | hd <;> cases hd
      exact hnamed c rfl
  | constructor varId params body =>
      exact constructs_respects h (performConstructor_constructs hperform)
  | staticMethod member parts =>
      cases hperform
      exact h.modifyCurrent fun c hc => hc.addStaticMethod h.known cleaner member parts
  | staticProperty member value =>
      cases hperform
      exact h.modifyCurrent fun c hc => hc.addStaticProperty h.known member value
  | bulk varId change =>
      rcases perform_bulk_eq_ok_iff.mp hperform with ⟨-, rfl⟩ | ⟨id, bulk, -, -, rfl⟩
      · exact h
      · refine ⟨Registry.All.modify h.registered id fun c _ hc => ?_, h.current, h.known⟩
        exact hc.bulk h.known cleaner bulk
  | initializer lines =>
      rw [perform_initializer_eq] at hperform
      cases hperform
      exact ⟨h.registered.declareAll (hblock lines rfl), h.current, h.known⟩

/-! ## Runs -/

/-- A class has no members when it is named. -/
theorem ofQualified?_respects {qualified : String} {c : ClassDef}
    (h : ClassDef.ofQualified? qualified = some c) : c.Respects ignore Declared := by
  obtain ⟨⟨space, name⟩, -, rfl⟩ := Option.map_eq_some_iff.mp h
  exact .of_empty rfl rfl

/-- The list is respected at every boundary, but for properties that are declared by the
initializer blocks of the run. -/
theorem Boundary.respects {lines : List String} {index : Nat}
    (h : Boundary cleaner (State.initial ignore) lines index st) :
    st.Respects ignore
      (∃ v ∈ visits cleaner ignore lines, v.declaresIgnored ignore = true) := by
  induction h with
  | start => exact .initial ignore _
  | @advance index read st next line rest before hline hstep ih =>
      obtain ⟨action, hread, hperform⟩ := (step_eq_ok_iff cleaner st index line rest).mp hstep
      obtain ⟨shape, hshape, hopened⟩ := exists_openedBy_of_readAction hread
      refine perform_respects ih ?_ ?_ hperform
      · rintro c rfl
        obtain ⟨qualified, -, hclass⟩ := hopened
        exact ofQualified?_respects hclass
      · rintro body rfl inner hinner hdeclares
        obtain ⟨rfl, rfl⟩ := hopened
        refine ⟨⟨st, index, line, rest⟩, mem_visits_iff.mpr ⟨before, hline⟩, ?_⟩
        have hvisit : (Visit.mk st index line rest).shape = some .initializerBlock := hshape
        rw [Visit.declaresIgnored, hvisit, beq_self_eq_true, Bool.true_and, List.any_eq_true]
        exact ⟨inner, hinner, hdeclares⟩

/-- An ignored property that an initializer block declares is in the registry at the end of the
run. -/
theorem exists_ignored_of_declaresIgnored {lines : List String} {final : State}
    (hrun : run cleaner ignore lines = .ok final)
    (h : ∃ v ∈ visits cleaner ignore lines, v.declaresIgnored ignore = true) :
    ∃ c ∈ final.registry.classes, ∃ p ∈ c.properties,
      ignore.contains (c.memberKey p.name) = true := by
  obtain ⟨v, hv, h⟩ := h
  obtain ⟨hboundary, hline⟩ := mem_visits_iff.mp hv
  rw [Visit.declaresIgnored, Bool.and_eq_true, beq_iff_eq, List.any_eq_true] at h
  obtain ⟨hshape, inner, hinner, hdeclares⟩ := h
  -- the run succeeds, so the block is closed and the step succeeds
  have hrest := hrun
  rw [run, show ({ ignore := ignore } : State) = State.initial ignore from rfl,
    hboundary.runFrom_eq] at hrest
  rcases runFrom_eq_ok_cases hrest with ⟨hend, -⟩ | ⟨line, rest, next, read, hline', hstep, -⟩
  · rw [hline] at hend; cases hend
  · rw [hline] at hline'
    cases hline'
    obtain ⟨action, hread, hperform⟩ := (step_eq_ok_iff ..).mp hstep
    obtain rfl := readAction_initializer hshape hread
    rw [perform_initializer_eq] at hperform
    cases hperform
    obtain ⟨id, c, hc, p, hp, hignored⟩ := exists_ignored_of_declareAll hinner hdeclares
    obtain ⟨d, hd, hextends⟩ :=
      ((hboundary.advance hline hstep).extends hrun).registry id c hc
    refine ⟨d, List.mem_of_getElem? hd, p, hextends.properties.subset hp, ?_⟩
    rw [hextends.memberKey_eq]
    exact hignored

/-- **Ignored members of a recovered model.** No method but a constructor is ignored, whatever
construct it comes from. No property is ignored exactly when no line of an initializer block
assigns an ignored member of a class that is registered when the block begins. -/
theorem ignored_members_of_recover {lines : List String} {model : RecoveredModel}
    (accepted : recover cleaner ignore lines = .ok model) :
    (∀ c ∈ model.registry.classes, ∀ m ∈ c.methods, m.isConstructor = false →
        ignore.contains (c.memberKey m.name) = false) ∧
      ((∀ c ∈ model.registry.classes, ∀ p ∈ c.properties,
          ignore.contains (c.memberKey p.name) = false) ↔
        ∀ v ∈ visits cleaner ignore lines, v.declaresIgnored ignore = false) := by
  obtain ⟨final, hrun, rfl⟩ := map_eq_ok_iff.mp accepted
  have hfinal := (boundary_length_iff.mpr hrun).respects
  refine ⟨fun c hc => ?_, ?_, ?_⟩
  · obtain ⟨id, hid⟩ := List.mem_iff_getElem?.mp hc
    exact (hfinal.registered id c hid).methods
  · intro hkept v hv
    cases hdeclares : v.declaresIgnored ignore with
    | false => rfl
    | true =>
        obtain ⟨c, hc, p, hp, hignored⟩ := exists_ignored_of_declaresIgnored hrun ⟨v, hv, hdeclares⟩
        rw [hkept c hc p hp] at hignored
        cases hignored
  · intro hnone c hc p hp
    obtain ⟨id, hid⟩ := List.mem_iff_getElem?.mp hc
    cases hignored : ignore.contains (c.memberKey p.name) with
    | false => rfl
    | true =>
        obtain ⟨v, hv, hdeclares⟩ := (hfinal.registered id c hid).properties p hp hignored
        rw [hnone v hv] at hdeclares
        cases hdeclares

/-- A static property and a member list that are ignored, and a block that assigns another
member. -/
theorem ignored_members_of_member_list :
    ∃ model, recover {} (.ofList ["N.C:size"])
        ["\t// N.C", "\tvar $C = function() \x7b", "\t\x7d;", "\t$C.size = 1;",
          "\tss.initClass($C, $asm, \x7bsize: 1\x7d);", "\t(function() \x7b", "\t\t$C.items = [];",
          "\t\x7d)();"] = .ok model ∧
      ∀ c ∈ model.registry.classes, ∀ p ∈ c.properties, c.memberKey p.name ≠ "N.C:size" := by
  refine exists_ok_and (by decide +kernel) fun model accepted c hc p hp hkey => ?_
  have hkept := (ignored_members_of_recover accepted).2.mpr (by decide +kernel) c hc p hp
  rw [hkey] at hkept
  cases hkept

/-- An initializer block lets an ignored property in. -/
theorem ignored_property_of_initializer :
    ∃ model, recover {} (.ofList ["N.C:items"])
        ["\t// N.C", "\tvar $C = function() \x7b", "\t\x7d;", "\t(function() \x7b",
          "\t\t$C.items = [];", "\t\x7d)();"] = .ok model ∧
      ∃ c ∈ model.registry.classes, ∃ p ∈ c.properties,
        (IgnoreList.ofList ["N.C:items"]).contains (c.memberKey p.name) = true := by
  refine exists_ok_and (by decide +kernel) fun model accepted => ?_
  obtain ⟨final, hrun, rfl⟩ := map_eq_ok_iff.mp accepted
  exact exists_ignored_of_declaresIgnored hrun (by decide +kernel)

end Dump

end ClassRecovery
