import ClassRecovery.Proofs.Dump.ClassChange
import ClassRecovery.Proofs.Dump.IgnoredMember
import ClassRecovery.Proofs.Dump.Lockstep

/-!
# Ignoring one more member

To ignore the key of one more member is to remove the members of that key and nothing else: the
dump is read to the same end, be it a failure, and the model is the same but for those members
(`recover_insert_memberKey`).

The two runs are in lockstep. Their states differ in the members of that key and in what they
ignore (`State.Drops`), so whatever a run does to a class has to commute with `dropMember`. There
are constructs that use an ignored name for something else than a member list; `Action.mentions`
tells those that may set the runs apart.
-/

set_option autoImplicit false

namespace ClassRecovery

/-! ## Classes and models without a member -/

/-- The class without the methods and properties of this key. -/
def ClassDef.dropMember (key : String) (c : ClassDef) : ClassDef :=
  { c with
    methods := c.methods.filter fun m => c.memberKey m.name != key
    properties := c.properties.filter fun p => c.memberKey p.name != key }

/-- The model without the methods and properties of this key. -/
def RecoveredModel.dropMember (key : String) (model : RecoveredModel) : RecoveredModel :=
  { model with registry := model.registry.modifyAll (ClassDef.dropMember key) }

/-- The larger list ignores this name and what the other one does, and nothing else. -/
def IgnoreList.AddsOnly (key : String) (list larger : IgnoreList) : Prop :=
  ∀ name, larger.contains name = (list.contains name || name == key)

namespace IgnoreList.AddsOnly

variable {key name : String} {list larger : IgnoreList}

theorem insert_key (list : IgnoreList) (htrimmed : Text.trimmed key = key) (hne : key ≠ "") :
    AddsOnly key list (list.insert key) := by
  intro name
  rw [Bool.eq_iff_iff, contains_insert_iff, Bool.or_eq_true, beq_iff_eq, htrimmed]
  refine or_congr_right ⟨fun h => h.1, ?_⟩
  rintro rfl
  exact ⟨rfl, hne⟩

theorem insert_both (h : AddsOnly key list larger) (other : String) :
    AddsOnly key (list.insert other) (larger.insert other) := by
  intro name
  rw [Bool.eq_iff_iff, Bool.or_eq_true, contains_insert_iff, contains_insert_iff, h name,
    Bool.or_eq_true]
  exact or_right_comm

theorem contains_of_ne (h : AddsOnly key list larger) (hne : name ≠ key) :
    larger.contains name = list.contains name := by
  rw [h name, beq_false_of_ne hne, Bool.or_false]

end IgnoreList.AddsOnly

namespace Dump

/-! ## Changes of a class -/

section Classes

variable {key : String} {ignore ignore' : IgnoreList} {cleaner : Cleaner} {c : ClassDef}

theorem dropMember_keepsIdentity (key : String) :
    ClassDef.KeepsIdentity (ClassDef.dropMember key) :=
  fun _ => ⟨rfl, rfl, rfl⟩

/-- A class without members has none to lose. -/
theorem dropMember_of_empty (methods : c.methods = []) (properties : c.properties = []) :
    c.dropMember key = c := by
  cases c
  cases methods
  cases properties
  rfl

/-- A filter of images is one of what they are images of, if the two tests agree. -/
theorem filter_filterMap_of_agree {α β : Type} {f : α → Option β} {p : α → Bool} {q : β → Bool}
    (h : ∀ a b, f a = some b → q b = p a) (l : List α) :
    (l.filterMap f).filter q = (l.filter p).filterMap f := by
  induction l with
  | nil => rfl
  | cons a rest ih =>
      cases hfa : f a with
      | none =>
          rw [List.filterMap_cons_none hfa, ih, List.filter_cons]
          split
          · rw [List.filterMap_cons_none hfa]
          · rfl
      | some b =>
          rw [List.filterMap_cons_some hfa, List.filter_cons, List.filter_cons, h a b hfa, ih]
          split
          · rw [List.filterMap_cons_some hfa]
          · rfl

/-- The method that a member adds has its name. -/
theorem Member.name_of_method? {member : Member} {m : Method}
    (h : member.method? cleaner c = some m) : m.name = member.name := by
  cases member with
  | method name parts => cases h; rfl
  | property name value => cases h

/-- The property that a member adds has its name. -/
theorem Member.name_of_property? {member : Member} {p : Property}
    (h : member.property? = some p) : p.name = member.name := by
  cases member with
  | method name parts => cases h
  | property name value => cases h; rfl

/-- The methods that are added to a class stay unless they have the key. -/
theorem dropMember_addMethods (c : ClassDef) (methods : List Method) :
    ClassDef.dropMember key { c with methods := c.methods ++ methods }
      = { c.dropMember key with
          methods := (c.dropMember key).methods
            ++ methods.filter fun m => c.memberKey m.name != key } := by
  unfold ClassDef.dropMember
  dsimp only
  rw [List.filter_append]
  rfl

/-- The properties that are added to a class stay unless they have the key. -/
theorem dropMember_addProperties (c : ClassDef) (properties : List Property) :
    ClassDef.dropMember key { c with properties := c.properties ++ properties }
      = { c.dropMember key with
          properties := (c.dropMember key).properties
            ++ properties.filter fun p => c.memberKey p.name != key } := by
  unfold ClassDef.dropMember
  dsimp only
  rw [List.filter_append]
  rfl

theorem dropMember_addProperty {property : Property} (h : c.memberKey property.name ≠ key) :
    (addProperty property c).dropMember key = addProperty property (c.dropMember key) := by
  have hkept : ([property].filter fun p => c.memberKey p.name != key) = [property] :=
    List.filter_cons_of_pos (bne_iff_ne.mpr h)
  calc (addProperty property c).dropMember key
      = { c.dropMember key with
          properties := (c.dropMember key).properties
            ++ [property].filter fun p => c.memberKey p.name != key } :=
        dropMember_addProperties c [property]
    _ = addProperty property (c.dropMember key) := by rw [hkept]; rfl

/-- A constructor stays: its key ends with a colon. -/
theorem dropMember_addConstructor (hlast : key.toList.getLast? ≠ some ':') (cleaner : Cleaner)
    (params : String) (body : List String) (c : ClassDef) :
    (addConstructor cleaner params body c).dropMember key
      = addConstructor cleaner params body (c.dropMember key) := by
  have hne : c.memberKey "" ≠ key := by
    rintro rfl
    simp [ClassDef.memberKey, String.toList_append] at hlast
  let added : Method := .constructor (parseParams params) (cleaner.body c body)
  have hkept : ([added].filter fun m => c.memberKey m.name != key) = [added] :=
    List.filter_cons_of_pos (bne_iff_ne.mpr hne)
  calc (addConstructor cleaner params body c).dropMember key
      = { c.dropMember key with
          methods := (c.dropMember key).methods
            ++ [added].filter fun m => c.memberKey m.name != key } :=
        dropMember_addMethods c [added]
    _ = addConstructor cleaner params body (c.dropMember key) := by rw [hkept]; rfl

theorem dropMember_constructed (hlast : key.toList.getLast? ≠ some ':') (cleaner : Cleaner)
    (varId params : String) (body : List String) (c : ClassDef) :
    (constructed cleaner c varId params body).dropMember key
      = constructed cleaner (c.dropMember key) varId params body :=
  dropMember_addConstructor hlast cleaner params body { c with varId := some varId }

variable (hignore : IgnoreList.AddsOnly key ignore ignore') (cleaner : Cleaner)

include hignore

theorem dropMember_addStaticMethod (member : String) (parts : FunctionParts) (c : ClassDef) :
    (addStaticMethod ignore cleaner member parts c).dropMember key
      = addStaticMethod ignore' cleaner member parts (c.dropMember key) := by
  have hcontains : ignore'.contains ((c.dropMember key).memberKey member)
      = (ignore.contains (c.memberKey member) || c.memberKey member == key) :=
    hignore (c.memberKey member)
  unfold addStaticMethod
  rw [hcontains]
  cases hknown : ignore.contains (c.memberKey member) with
  | true => rfl
  | false =>
      rw [if_neg Bool.false_ne_true, dropMember_addMethods, Bool.false_or]
      by_cases hkey : c.memberKey member = key
      · -- only the other run ignores the method
        simp [hkey]
      · simp [hkey]
        rfl

theorem dropMember_addStaticProperty (member value : String) (c : ClassDef) :
    ClassDef.dropMember key
        (if ignore.contains (c.memberKey member) then c
        else addProperty { name := member, defaultValue := some value, isStatic := some true } c)
      = if ignore'.contains ((c.dropMember key).memberKey member) then c.dropMember key
        else addProperty { name := member, defaultValue := some value, isStatic := some true }
          (c.dropMember key) := by
  have hcontains : ignore'.contains ((c.dropMember key).memberKey member)
      = (ignore.contains (c.memberKey member) || c.memberKey member == key) :=
    hignore (c.memberKey member)
  rw [hcontains]
  cases hknown : ignore.contains (c.memberKey member) with
  | true => rfl
  | false =>
      rw [if_neg Bool.false_ne_true, Bool.false_or]
      by_cases hkey : c.memberKey member = key
      · rw [if_pos (beq_iff_eq.mpr hkey)]
        unfold addProperty
        rw [dropMember_addProperties]
        simp [hkey]
      · rw [if_neg (by simpa using hkey)]
        exact dropMember_addProperty hkey

/-- The members of a list that the other run lets in are those that stay. -/
theorem dropMember_addMembers (members : List Member) (c : ClassDef) :
    (addMembers ignore cleaner members c).dropMember key
      = addMembers ignore' cleaner members (c.dropMember key) := by
  let kept := members.filter fun member => !ignore.contains (c.memberKey member.name)
  let stays (name : String) : Bool := c.memberKey name != key
  have hkept : (members.filter fun member => !ignore'.contains (c.memberKey member.name))
      = kept.filter fun member => stays member.name := by
    rw [List.filter_filter]
    refine List.filter_congr fun member _ => ?_
    rw [hignore, Bool.not_or, Bool.and_comm]
    rfl
  have hmethods : (kept.filterMap (·.method? cleaner c)).filter (stays ·.name)
      = (kept.filter (stays ·.name)).filterMap (·.method? cleaner c) :=
    filter_filterMap_of_agree (fun _ _ h => congrArg stays (Member.name_of_method? h)) kept
  have hproperties : (kept.filterMap Member.property?).filter (stays ·.name)
      = (kept.filter (stays ·.name)).filterMap Member.property? :=
    filter_filterMap_of_agree (fun _ _ h => congrArg stays (Member.name_of_property? h)) kept
  let added : ClassDef :=
    { c with methods := c.methods ++ kept.filterMap (·.method? cleaner c) }
  calc (addMembers ignore cleaner members c).dropMember key
      = { added.dropMember key with
          properties := (added.dropMember key).properties
            ++ (kept.filterMap Member.property?).filter (stays ·.name) } :=
        dropMember_addProperties added _
    _ = addMembers ignore' cleaner members (c.dropMember key) := by
        rw [dropMember_addMethods, hmethods, hproperties, ← hkept]
        rfl

theorem dropMember_bulkChange (change : BulkChange) (c : ClassDef) :
    (change.apply ignore cleaner c).dropMember key
      = change.apply ignore' cleaner (c.dropMember key) := by
  have hmembers (members : List Member) := dropMember_addMembers hignore cleaner members c
  cases change with
  | classMembers members trailer =>
      simp only [BulkChange.apply, ← hmembers]
      cases trailer <;> rfl
  | interfaceMembers members bases | enumMembers members flags =>
      simp only [BulkChange.apply, ← hmembers]
      rfl
  | arity count => rfl

end Classes

/-! ## What must not be mentioned -/

/-- The action names a class, a global or a property of an initializer block by this key. -/
def Action.mentions (key : String) (registry : Registry) : Action → Bool
  | .className c => c.qualifiedName == key
  | .assignment _ target value => target == key || value == key
  | .initializer lines => lines.any (declaresIgnored { entries := [key] } registry)
  | _ => false

/-- What is read at a top-level line mentions this key. -/
def Visit.mentions (key : String) (v : Visit) : Bool :=
  match v.action with
  | .ok action => action.mentions key v.state.registry
  | .error _ => false

/-! ## Related states -/

/-- The second state is the first one without the members of this key, which it ignores. -/
structure State.Drops (key : String) (st st' : State) : Prop where
  registry : st'.registry = st.registry.modifyAll (ClassDef.dropMember key)
  current : st'.current = st.current.map (Current.map (ClassDef.dropMember key))
  ignore : IgnoreList.AddsOnly key st.ignore st'.ignore
  /-- The key ignores no class. -/
  apart : ∀ c, st.KeepsApart c → c.qualifiedName ≠ key
  globals : st'.globals = st.globals
  assembly : st'.assembly = st.assembly

variable {key : String} {cleaner : Cleaner} {st st' : State} {r : Registry} {line : String}
  {lines : List String}

namespace State.Drops

theorem initial (ignore : IgnoreList) (htrimmed : Text.trimmed key = key) (hne : key ≠ "") :
    (State.initial ignore).Drops key (State.initial (ignore.insert key)) := by
  have hignore := IgnoreList.AddsOnly.insert_key ignore htrimmed hne
  generalize ignore.insert key = larger at hignore
  refine ⟨rfl, rfl, hignore, fun c hc => ?_, rfl, rfl⟩
  rcases hc with hc | hc <;> cases hc

/-- Members do not count for classification. -/
theorem scope_eq (h : st.Drops key st') : st'.scope = st.scope :=
  scope_eq_of_changed (f := ClassDef.dropMember key) (fun _ => rfl) h.registry h.current

/-- A change of the class being read that commutes with the removal, in both runs. -/
theorem modifyCurrent (h : st.Drops key st') {f f' : ClassDef → ClassDef}
    (hf : ∀ c, (f c).dropMember key = f' (c.dropMember key))
    (hextends : ∀ c, ClassDef.Extends c (f c)) :
    (st.modifyCurrent f).Drops key (st'.modifyCurrent f') := by
  have hcurrent := h.current
  unfold State.modifyCurrent
  rw [hcurrent]
  cases hst : st.current with
  | none => exact h
  | some current =>
      cases current with
      | declared c =>
          refine ⟨h.registry, ?_, h.ignore, fun d hd => ?_, h.globals, h.assembly⟩
          · simp only [Option.map_some, Current.map, hf]
          · rcases hd with hd | hd <;> cases hd
            rw [(hextends c).qualifiedName_eq]
            exact h.apart c (.inl hst)
      | detached c =>
          refine ⟨h.registry, ?_, h.ignore, fun d hd => ?_, h.globals, h.assembly⟩
          · simp only [Option.map_some, Current.map, hf]
          · rcases hd with hd | hd <;> cases hd
            rw [(hextends c).qualifiedName_eq]
            exact h.apart c (.inr hst)
      | registered id =>
          refine ⟨?_, rfl, h.ignore, fun d hd => ?_, h.globals, h.assembly⟩
          · show st'.registry.modify id f' = (st.registry.modify id f).modifyAll _
            rw [h.registry, Registry.modify_modifyAll fun c _ => hf c]
          · rcases hd with hd | hd <;> cases hd

end State.Drops

/-! ## Constructors -/

section Constructors

variable {varId params : String} {body : List String}

/-- The first constructor of a class in both runs. The key ignores no class, so the class is ignored
in both or in none. -/
theorem registerClass_drops (h : st.Drops key st') (hlast : key.toList.getLast? ≠ some ':')
    {c : ClassDef} (hname : c.qualifiedName ≠ key) :
    SameOutcome (State.Drops key) (registerClass cleaner st c varId params body)
      (registerClass cleaner st' (c.dropMember key) varId params body) := by
  have hignored : st'.ignore.contains (c.dropMember key).qualifiedName
      = st.ignore.contains c.qualifiedName := h.ignore.contains_of_ne hname
  have hrecord := dropMember_constructed hlast cleaner varId params body c
  cases hcontains : st.ignore.contains c.qualifiedName with
  | true =>
      rw [registerClass_of_ignored hcontains, registerClass_of_ignored (hignored.trans hcontains)]
      refine .ok ⟨h.registry, ?_, ?_, fun d hd => ?_, h.globals, h.assembly⟩
      · simp only [Option.map_some, Current.map, hrecord]
      · dsimp only
        exact h.ignore.insert_both varId
      · rcases hd with hd | hd <;> cases hd
        exact hname
  | false =>
      rw [registerClass_of_kept hcontains, registerClass_of_kept (hignored.trans hcontains),
        ← hrecord, h.registry,
        Registry.insert_modifyAll (dropMember_keepsIdentity key) (fun _ => rfl)]
      cases st.registry.insert (constructed cleaner c varId params body) with
      | error cause => exact .error _
      | ok outcome =>
          refine .ok ⟨rfl, rfl, h.ignore, fun d hd => ?_, h.globals, h.assembly⟩
          rcases hd with hd | hd <;> cases hd

/-- One more constructor of a registered class in both runs. -/
theorem extendClass_drops (h : st.Drops key st') (hlast : key.toList.getLast? ≠ some ':')
    (id : Nat) :
    SameOutcome (State.Drops key) (extendClass cleaner st id varId params body)
      (extendClass cleaner st' id varId params body) := by
  rw [extendClass_eq, extendClass_eq, h.registry,
    Registry.bindVar_modifyAll (dropMember_keepsIdentity key) (fun _ _ => rfl)]
  cases st.registry.bindVar id varId with
  | error cause => exact .error _
  | ok registry =>
      refine .ok ⟨?_, h.current, h.ignore, h.apart, h.globals, h.assembly⟩
      exact (Registry.modify_modifyAll fun c _ =>
        dropMember_addConstructor hlast cleaner params body c).symm

theorem performConstructor_drops (h : st.Drops key st')
    (hlast : key.toList.getLast? ≠ some ':') :
    SameOutcome (State.Drops key) (performConstructor cleaner st varId params body)
      (performConstructor cleaner st' varId params body) := by
  unfold performConstructor
  rw [h.current]
  cases hst : st.current with
  | none => exact .ok h
  | some current =>
      cases current with
      | declared c => exact registerClass_drops h hlast (h.apart c (.inl hst))
      | detached c => exact registerClass_drops h hlast (h.apart c (.inr hst))
      | registered id => exact extendClass_drops h hlast id

end Constructors

/-! ## Initializer blocks -/

/-- A line that declares no property of this key declares the same one in both runs. -/
theorem declare_dropMember (hline : declaresIgnored { entries := [key] } r line = false) :
    declare (r.modifyAll (ClassDef.dropMember key)) line
      = (declare r line).modifyAll (ClassDef.dropMember key) := by
  refine declare_modifyAll fun id property c hproperty hc => dropMember_addProperty ?_
  -- else the line declares a property of the key
  rintro hkey
  have htrue : declaresIgnored { entries := [key] } r line = true :=
    declaresIgnored_iff.mpr ⟨id, property, c, hproperty, hc, by simp [IgnoreList.contains, hkey]⟩
  rw [hline] at htrue
  cases htrue

theorem declareAll_dropMember
    (hlines : ∀ line ∈ lines, declaresIgnored { entries := [key] } r line = false) :
    lines.foldl declare (r.modifyAll (ClassDef.dropMember key))
      = (lines.foldl declare r).modifyAll (ClassDef.dropMember key) := by
  induction lines generalizing r with
  | nil => rfl
  | cons line rest ih =>
      rw [List.forall_mem_cons] at hlines
      rw [List.foldl_cons, List.foldl_cons, declare_dropMember hlines.1]
      refine ih fun other hother => ?_
      rw [declaresIgnored_declare]
      exact hlines.2 other hother

/-- The receiver of a line has no colon, so the key does not count for what is recorded. -/
theorem State.Drops.isRecorded_eq (h : st.Drops key st') (hcolon : ':' ∈ key.toList) :
    isRecorded st'.ignore st'.registry = isRecorded st.ignore st.registry := by
  funext line
  have hreceiver : (InitializerLine.ofLine line).receiver.any st'.ignore.contains
      = (InitializerLine.ofLine line).receiver.any st.ignore.contains := by
    cases hline : (InitializerLine.ofLine line).receiver with
    | none => rfl
    | some receiver =>
        refine h.ignore.contains_of_ne ?_
        rintro rfl
        exact colon_notMem_receiver hline hcolon
  have hliteral : assignsLiteral st'.registry line = assignsLiteral st.registry line := by
    rw [h.registry]
    rfl
  unfold isRecorded
  rw [hreceiver, hliteral]

/-! ## Actions and runs -/

/-- Global statements are recorded in both runs. -/
theorem State.Drops.addGlobals (h : st.Drops key st') (lines : List String) :
    (st.addGlobals lines).Drops key (st'.addGlobals lines) :=
  { h with globals := by simp only [State.addGlobals, h.globals] }

theorem addGlobalAssignment_drops (h : st.Drops key st') (line : String) {target value : String}
    (htarget : target ≠ key) (hvalue : value ≠ key) :
    (addGlobalAssignment cleaner st line target value).Drops key
      (addGlobalAssignment cleaner st' line target value) := by
  unfold addGlobalAssignment
  rw [h.ignore.contains_of_ne htarget, h.ignore.contains_of_ne hvalue]
  split
  · exact h
  · exact h.addGlobals [cleaner.clean line]

theorem addStaticProperty_drops (h : st.Drops key st') (member value : String) :
    (addStaticProperty st member value).Drops key (addStaticProperty st' member value) := by
  refine h.modifyCurrent (dropMember_addStaticProperty h.ignore member value) fun c => ?_
  split
  · exact .refl c
  · exact addProperty_extends c _

/-- A bulk call has the same outcome in both runs, its variable being bound alike. -/
theorem performBulk_drops (h : st.Drops key st') {varId : String}
    {change : Except Error BulkChange} :
    SameOutcome (State.Drops key) (perform cleaner st (.bulk varId change))
      (perform cleaner st' (.bulk varId change)) := by
  have hfound : st'.registry.findByVar? varId = st.registry.findByVar? varId := by
    rw [h.registry]
    rfl
  show SameOutcome _ (onClass st varId _) (onClass st' varId _)
  unfold onClass
  rw [hfound]
  cases st.registry.findByVar? varId with
  | none => exact .ok h
  | some id =>
      cases change with
      | error failure => exact .error failure
      | ok change =>
          refine .ok { h with registry := ?_ }
          rw [h.registry]
          exact (Registry.modify_modifyAll fun c _ =>
            dropMember_bulkChange h.ignore cleaner change c).symm

/-- **One step of the two runs.** An action that does not mention the key has the same outcome in
both. -/
theorem perform_drops {action : Action} (h : st.Drops key st') (hcolon : ':' ∈ key.toList)
    (hlast : key.toList.getLast? ≠ some ':') (hfree : action.mentions key st.registry = false)
    (hnamed : ∀ c, action = .className c → c.methods = [] ∧ c.properties = []) :
    SameOutcome (State.Drops key) (perform cleaner st action) (perform cleaner st' action) := by
  cases action with
  | nothing => exact .ok h
  | assignment line target value =>
      simp only [Action.mentions, Bool.or_eq_false_iff, beq_eq_false_iff_ne] at hfree
      exact .ok (addGlobalAssignment_drops h line hfree.1 hfree.2)
  | block lines => exact .ok (h.addGlobals (lines.map cleaner.clean))
  | assembly name => exact .ok { h with assembly := rfl }
  | separator =>
      refine .ok ⟨h.registry, rfl, h.ignore, fun c hc => ?_, h.globals, h.assembly⟩
      rcases hc with hc | hc <;> cases hc
  | className c =>
      obtain ⟨hmethods, hproperties⟩ := hnamed c rfl
      refine .ok ⟨h.registry, ?_, h.ignore, fun d hd => ?_, h.globals, h.assembly⟩
      · simp only [Option.map_some, Current.map, dropMember_of_empty hmethods hproperties]
      · rcases hd with hd | hd <;> cases hd
        simpa [Action.mentions] using hfree
  | constructor varId params body => exact performConstructor_drops h hlast
  | staticMethod member parts =>
      exact .ok (h.modifyCurrent (dropMember_addStaticMethod h.ignore cleaner member parts)
        fun c => addStaticMethod_extends cleaner st.ignore c member parts)
  | staticProperty member value => exact .ok (addStaticProperty_drops h member value)
  | bulk varId change => exact performBulk_drops h
  | initializer lines =>
      have hnone : ∀ line ∈ lines,
          declaresIgnored { entries := [key] } st.registry line = false := by
        simpa [Action.mentions] using hfree
      rw [perform_initializer_eq, perform_initializer_eq, h.isRecorded_eq hcolon, h.globals]
      refine .ok ⟨?_, h.current, h.ignore, h.apart, rfl, h.assembly⟩
      rw [h.registry, declareAll_dropMember hnone]

/-- **Ignoring a member leaves its siblings alone.** Let the key be a trimmed text with a colon,
though not at its end, and let nothing that the dump is read for mention it but member lists and
static members. If the key is ignored as well, the dump is refused for the same reason, or the model
is the same but for the methods and properties of that key. -/
theorem recover_insert_memberKey {ignore : IgnoreList} {lines : List String}
    (htrimmed : Text.trimmed key = key) (hcolon : ':' ∈ key.toList)
    (hlast : key.toList.getLast? ≠ some ':')
    (hfree : ∀ v ∈ visits cleaner ignore lines, v.mentions key = false) :
    recover cleaner (ignore.insert key) lines
      = (recover cleaner ignore lines).map (RecoveredModel.dropMember key) := by
  have hne : key ≠ "" := by
    rintro rfl
    cases hcolon
  have hperform (v : Visit) (st' : State) (action : Action) (hmentions : v.mentions key = false)
      (h : v.state.Drops key st') (haction : v.action = .ok action) :
      SameOutcome (State.Drops key) (perform cleaner v.state action)
        (perform cleaner st' action) := by
    rw [Visit.mentions, haction] at hmentions
    refine perform_drops h hcolon hlast hmentions ?_
    -- a class has no members when it is named
    rintro c rfl
    obtain ⟨_, _, qualified, -, hclass⟩ := Visit.exists_openedBy haction
    obtain ⟨⟨space, name⟩, -, rfl⟩ := Option.map_eq_some_iff.mp hclass
    exact ⟨rfl, rfl⟩
  have hsame : SameOutcome (State.Drops key) (run cleaner ignore lines)
      (run cleaner (ignore.insert key) lines) :=
    runFrom_sameOutcome (fun _ _ h => h.scope_eq) hperform (.initial ignore htrimmed hne) hfree
  have hmodels := hsame.map_eq (f := fun st => st.model.dropMember key) (g := State.model)
    fun st st' h => by
      simp only [State.model, RecoveredModel.dropMember, h.registry, h.globals, h.assembly]
  rw [recover, recover, ← hmodels]
  cases run cleaner ignore lines <;> rfl

/-- A static method is ignored that a member list has as well; an initializer block assigns another
member. -/
theorem recover_insert_memberKey_of_static_method :
    ∃ model, recover {} {}
        ["\t// N.C", "\tvar $C = function() \x7b", "\t\x7d;", "\t$C.create = function(a) \x7b",
          "\t\t$C.size = a;", "\t\x7d;", "\tss.initClass($C, $asm, \x7bcreate: 1, size: 2\x7d);",
          "\t(function() \x7b", "\t\t$C.items = [];", "\t\x7d)();"] = .ok model ∧
      recover {} (({} : IgnoreList).insert "N.C:create")
        ["\t// N.C", "\tvar $C = function() \x7b", "\t\x7d;", "\t$C.create = function(a) \x7b",
          "\t\t$C.size = a;", "\t\x7d;", "\tss.initClass($C, $asm, \x7bcreate: 1, size: 2\x7d);",
          "\t(function() \x7b", "\t\t$C.items = [];", "\t\x7d)();"]
          = .ok (model.dropMember "N.C:create") := by
  refine exists_ok_and ?accepted fun model accepted => ?same
  case accepted => decide +kernel
  case same =>
    rw [recover_insert_memberKey (by decide +kernel : Text.trimmed "N.C:create" = "N.C:create")
      (by decide +kernel) (by decide +kernel) (by decide +kernel), accepted]
    rfl

end Dump

end ClassRecovery
