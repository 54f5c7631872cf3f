import ClassRecovery.Proofs.Dump.Boundary
import ClassRecovery.Proofs.Dump.Performing

/-!
# Where a run fails

A run fails at the last of its top-level lines, and says a line of the dump, counted from one. A line
that is refused is given as it stands there; only from a call with all its members on one line a
single member may be given (`Visit.Refuses`). A construct that is not closed is given by its opening
line (`Visit.LeavesOpen`). `locates_of_run` says so of every dump that cannot be read.
-/

set_option autoImplicit false

namespace ClassRecovery.Dump

open Text

/-! ## What can be refused or left open -/

/-- The members of a bulk call on one line. -/
def LineShape.inlineMembers? : LineShape → Option String
  | .classInline _ members _ | .interfaceInline _ members _ | .enumInline _ members _ =>
    some members
  | _ => none

/-- The pieces of a member list on one line. -/
def memberPieces (members : String) : List String :=
  (splitOn ", ".toList (trim members.toList)).map String.ofList

/-- How the end of a construct is recognized, and the text for it in a failure. -/
structure Ending where
  closes : String → Bool
  terminator : String

/-- The end of the construct of several lines that a top-level line opens. -/
def LineShape.ending? : LineShape → Option Ending
  | .globalBlock | .classBlock _ => some ⟨startsWith "\t\x7d", "\\t\x7d"⟩
  | .constructor .. | .staticMethod .. => some ⟨(· == functionClosing), "\\t\x7d;"⟩
  | .initializerBlock => some ⟨startsWith "\t\x7d)();", "\\t\x7d)();"⟩
  | _ => none

/-- The end of a method in a member list. -/
def methodEnding (indent : String) : Ending := ⟨closesMethod indent, "\x7d"⟩

/-- The line opens a method of a member list. -/
def opensMethod (indent line : String) : Bool :=
  ((indent.toList.isPrefixOf? line.toList).bind methodHeader?).isSome

/-- None of the lines is the end. -/
def Ending.Missing (ending : Ending) (lines : List String) : Prop :=
  ∀ line ∈ lines, ending.closes line = false

/-- What can be refused at a top-level line: the line itself, a line of a member block, a member of
a list on the line. -/
inductive Visit.Refuses (v : Visit) : Nat → String → Prop
  | line : v.Refuses v.index v.line
  | blockLine {varId text : String} {offset : Nat} (hshape : v.shape = some (.classBlock varId))
      (htext : v.rest[offset]? = some text) : v.Refuses (v.index + 1 + offset) text
  | piece {shape : LineShape} {members text : String} (hshape : v.shape = some shape)
      (hmembers : shape.inlineMembers? = some members) (htext : text ∈ memberPieces members) :
      v.Refuses v.index text

/-- What can be left open at a top-level line, with the place of the opening line, the line and the
end that is missing: its own construct in the dump, a method in its member block, a method in its
member list. -/
inductive Visit.LeavesOpen (v : Visit) : Nat → String → Ending → Prop
  | construct {shape : LineShape} {ending : Ending} (hshape : v.shape = some shape)
      (hending : shape.ending? = some ending) (hmissing : ending.Missing v.rest) :
      v.LeavesOpen v.index v.line ending
  | blockMethod {varId header : String} {later : List String} {offset : Nat}
      (hshape : v.shape = some (.classBlock varId))
      (hheader : (linesBefore (startsWith "\t\x7d") v.rest).drop offset = header :: later)
      (hopens : opensMethod blockIndent header = true)
      (hmissing : (methodEnding blockIndent).Missing later) :
      v.LeavesOpen (v.index + 1 + offset) header (methodEnding blockIndent)
  | inlineMethod {shape : LineShape} {members header : String} {later : List String}
      {offset : Nat} (hshape : v.shape = some shape)
      (hmembers : shape.inlineMembers? = some members)
      (hheader : (memberPieces members).drop offset = header :: later)
      (hopens : opensMethod "" header = true) (hmissing : (methodEnding "").Missing later) :
      v.LeavesOpen v.index v.line (methodEnding "")

/-- What a failure at a top-level line can be. -/
inductive Visit.Fails (v : Visit) : Error → Prop
  | refuses {place : Nat} {text : String} (h : v.Refuses place text) :
      v.Fails (.unrecognizedAt place text)
  | leavesOpen {place : Nat} {opening : String} {ending : Ending}
      (h : v.LeavesOpen place opening ending) : v.Fails (.unterminatedAt place ending.terminator)
  | registry (cause : RegistryError) : v.Fails (.registry cause)

variable {v : Visit} {indent : String} {source : MemberSource} {lines rest : List String}
  {failure : Error} {skip offset index read : Nat}

/-! ## Member lists -/

/-- What the failure of a member list can be: a line of it is no member, or a method that is opened
in it is not closed in it. -/
inductive ListFails (indent : String) (source : MemberSource) (lines : List String) :
    Error → Prop
  | noMember {offset : Nat} {line : String} (hline : lines[offset]? = some line) :
      ListFails indent source lines (.unrecognizedAt (source.lineIndex offset) line)
  | openMethod {offset : Nat} {header : String} {later : List String}
      (hheader : lines.drop offset = header :: later) (hopens : opensMethod indent header = true)
      (hmissing : (methodEnding indent).Missing later) :
      ListFails indent source lines (.unterminatedAt (source.lineIndex offset) "\x7d")

theorem getElem?_of_drop {line : String} (hline : lines.drop offset = line :: rest) :
    lines[offset]? = some line := by
  rw [← List.head?_drop, hline]
  rfl

/-- On the lines that are left to read; what is passed over belongs to a method that is closed. -/
theorem listFails_of_readMembersFrom (hrest : lines.drop offset = rest)
    (h : (readMembersFrom indent source skip offset rest).2 = some failure) :
    ListFails indent source lines failure := by
  induction rest generalizing skip offset with
  | nil => cases skip <;> cases h
  | cons line rest ih =>
      have hnext : lines.drop (offset + 1) = rest := drop_step hrest 0
      cases skip with
      | succ skip => exact ih hnext h
      | zero =>
          rw [readMembersFrom] at h
          cases hindent : indent.toList.isPrefixOf? line.toList with
          | none =>
              rw [hindent] at h
              cases h
              exact .noMember (getElem?_of_drop hrest)
          | some member =>
              rw [hindent] at h
              cases hheader : methodHeader? member with
              | some header =>
                  have hopens : opensMethod indent line = true := by
                    rw [opensMethod, hindent, Option.bind_some, hheader]
                    rfl
                  simp only [hheader] at h
                  cases hcut : cutAtClosing (closesMethod indent) "\x7d" (source.lineIndex offset)
                      rest with
                  | error failure' =>
                      rw [hcut] at h
                      cases h
                      obtain ⟨rfl, hmissing⟩ := cutAtClosing_eq_error_iff.mp hcut
                      exact .openMethod hrest hopens hmissing
                  | ok cut =>
                      rw [hcut] at h
                      exact ih hnext h
              | none =>
                  simp only [hheader] at h
                  cases hproperty : propertyLine? member with
                  | some property =>
                      simp only [hproperty] at h
                      exact ih hnext h
                  | none =>
                      simp only [hproperty] at h
                      cases h
                      exact .noMember (getElem?_of_drop hrest)

theorem listFails_of_allMembers
    (h : allMembers (readMembers indent source lines) = .error failure) :
    ListFails indent source lines failure := by
  unfold readMembers at h
  split at h
  · cases h
  · obtain ⟨members, failure', hread⟩ : ∃ members failure',
        readMembersFrom indent source 0 0 lines = (members, failure') := ⟨_, _, rfl⟩
    cases failure' with
    | none =>
        rw [hread] at h
        cases h
    | some failure' =>
        have hfails : (readMembersFrom indent source 0 0 lines).2 = some failure' := by rw [hread]
        rw [hread] at h
        cases h
        exact listFails_of_readMembersFrom rfl hfails

/-- The failure of the members of a block. -/
theorem ListFails.fails_block {varId closing : String} {body : List String}
    (hshape : v.shape = some (.classBlock varId))
    (hcut : cutAtClosing? (startsWith "\t\x7d") v.rest = some (body, closing))
    (h : ListFails blockIndent (.block (v.index + 1)) body failure) : v.Fails failure := by
  cases h with
  | noMember hline =>
      obtain ⟨after, hrest, -, -⟩ := cutAtClosing?_eq_some_iff.mp hcut
      refine .refuses (.blockLine hshape ?_)
      rw [hrest]
      exact List.getElem?_append_left (List.getElem?_eq_some_iff.mp hline).1 ▸ hline
  | openMethod hheader hopens hmissing =>
      rw [← linesBefore_of_cut hcut] at hheader
      exact .leavesOpen (.blockMethod hshape hheader hopens hmissing)

/-- The failure of the members of a list on one line. -/
theorem ListFails.fails_inline {shape : LineShape} {members : String}
    (hshape : v.shape = some shape) (hmembers : shape.inlineMembers? = some members)
    (h : ListFails "" (.inline v.index) (memberPieces members) failure) : v.Fails failure := by
  cases h with
  | noMember hline => exact .refuses (.piece hshape hmembers (List.mem_of_getElem? hline))
  | openMethod hheader hopens hmissing =>
      exact .leavesOpen (.inlineMethod hshape hmembers hheader hopens hmissing)

/-! ## Steps -/

theorem fails_of_cutAtClosing {shape : LineShape} {ending : Ending}
    (hshape : v.shape = some shape) (hending : shape.ending? = some ending)
    (h : cutAtClosing ending.closes ending.terminator v.index v.rest = .error failure) :
    v.Fails failure := by
  obtain ⟨rfl, hmissing⟩ := cutAtClosing_eq_error_iff.mp h
  exact .leavesOpen (.construct hshape hending hmissing)

theorem partOf_eq_error_iff {α : Type} {line : String} {part? : Option α} :
    partOf index line part? = .error failure ↔
      part? = none ∧ failure = .unrecognizedAt index line := by
  cases part? <;> simp [partOf, eq_comm]

/-- What cannot be read fails where it stands. -/
theorem fails_of_actionOf {shape : LineShape} (hshape : v.shape = some shape)
    (h : actionOf v.index v.line v.rest shape = .error failure) : v.Fails failure := by
  cases shape with
  | globalBlock | constructor | staticMethod | initializerBlock =>
      rcases bind_eq_error_iff.mp h with hcut | ⟨cut, -, h⟩
      · exact fails_of_cutAtClosing hshape rfl hcut
      · cases h
  | className qualified =>
      rcases bind_eq_error_iff.mp h with hpart | ⟨c, -, h⟩
      · obtain ⟨-, rfl⟩ := partOf_eq_error_iff.mp hpart
        exact .refuses .line
      · cases h
  | classBlock varId =>
      rcases bind_eq_error_iff.mp h with hcut | ⟨⟨body, closing⟩, hcut, h⟩
      · exact fails_of_cutAtClosing hshape rfl hcut
      · rcases bind_eq_error_iff.mp h with hpart | ⟨trailer, -, h⟩
        · -- the closing line is refused for its trailer
          obtain ⟨-, rfl⟩ := partOf_eq_error_iff.mp hpart
          obtain ⟨after, hrest, -, -⟩ :=
            cutAtClosing?_eq_some_iff.mp (cutAtClosing_eq_ok_iff.mp hcut)
          refine .refuses (.blockLine hshape ?_)
          rw [hrest, List.getElem?_append_right le_rfl, Nat.sub_self]
          rfl
        · cases h
  | _ => cases h

/-- A bulk call that cannot be carried out fails in its members or, on one line, in its trailer. -/
theorem fails_of_bulk {shape : LineShape} {varId : String} {change : Except Error BulkChange}
    (hshape : v.shape = some shape)
    (haction : actionOf v.index v.line v.rest shape = .ok (.bulk varId change, read))
    (hchange : change = .error failure) : v.Fails failure := by
  cases shape with
  | classBlock =>
      obtain ⟨⟨body, closing⟩, hcut, h⟩ := bind_eq_ok_iff.mp haction
      obtain ⟨trailer, -, h⟩ := bind_eq_ok_iff.mp h
      cases h
      rcases bind_eq_error_iff.mp hchange with hmembers | ⟨members, -, h⟩
      · exact (listFails_of_allMembers hmembers).fails_block hshape (cutAtClosing_eq_ok_iff.mp hcut)
      · cases h
  | classInline | interfaceInline =>
      cases haction
      rcases bind_eq_error_iff.mp hchange with hmembers | ⟨members, -, h⟩
      · exact (listFails_of_allMembers hmembers).fails_inline hshape rfl
      · rcases bind_eq_error_iff.mp h with hpart | ⟨trailer, -, h⟩
        · obtain ⟨-, rfl⟩ := partOf_eq_error_iff.mp hpart
          exact .refuses .line
        · cases h
  | enumInline =>
      cases haction
      exact (listFails_of_allMembers (map_eq_error_iff.mp hchange)).fails_inline hshape rfl
  | genericArity =>
      cases haction
      cases hchange
  | globalBlock | constructor | staticMethod | initializerBlock | className =>
      obtain ⟨_, -, h⟩ := bind_eq_ok_iff.mp haction
      cases h
  | _ => cases haction

/-- A constructor fails only in the registry. -/
theorem exists_cause_of_performConstructor {cleaner : Cleaner} {st : State} {varId params : String}
    {body : List String} (h : performConstructor cleaner st varId params body = .error failure) :
    ∃ cause, failure = .registry cause := by
  have hregister (c : ClassDef)
      (h : registerClass cleaner st c varId params body = .error failure) :
      ∃ cause, failure = .registry cause := by
    unfold registerClass at h
    dsimp only at h
    split at h
    · cases h
    · split at h
      · cases h
      · cases h
        exact ⟨_, rfl⟩
  unfold performConstructor at h
  split at h
  · cases h
  · exact hregister _ h
  · exact hregister _ h
  · unfold extendClass at h
    split at h
    · cases h
    · cases h
      exact ⟨_, rfl⟩

theorem fails_of_perform {cleaner : Cleaner} {shape : LineShape} {action : Action}
    (hshape : v.shape = some shape)
    (haction : actionOf v.index v.line v.rest shape = .ok (action, read))
    (h : perform cleaner v.state action = .error failure) : v.Fails failure := by
  cases action with
  | constructor varId params body =>
      obtain ⟨cause, rfl⟩ := exists_cause_of_performConstructor h
      exact .registry cause
  | bulk varId change =>
      simp only [perform, onClass] at h
      split at h
      · cases h
      · rcases bind_eq_error_iff.mp h with hchange | ⟨_, -, h⟩
        · exact fails_of_bulk hshape haction (map_eq_error_iff.mp hchange)
        · cases h
  | _ => cases h

/-- What a step that fails says of the line it is at. -/
theorem fails_of_step {cleaner : Cleaner}
    (h : step cleaner v.state v.index v.line v.rest = .error failure) : v.Fails failure := by
  rw [step_eq, thenPerform] at h
  rcases bind_eq_error_iff.mp h with hread | ⟨⟨action, read⟩, hread, h⟩
  · unfold readAction at hread
    cases hshape : classify v.state.scope v.line with
    | none =>
        rw [hshape] at hread
        cases hread
        exact .refuses .line
    | some shape =>
        rw [hshape] at hread
        exact fails_of_actionOf hshape hread
  · obtain ⟨shape, hshape, haction⟩ := exists_shape_of_readAction hread
    rcases bind_eq_error_iff.mp h with hperform | ⟨next, -, h⟩
    · exact fails_of_perform hshape haction hperform
    · cases h

/-! ## Runs -/

section Runs

variable {cleaner : Cleaner} {start st : State}

/-- A run that fails does so at a step. -/
theorem exists_step_of_runFrom (h : Boundary cleaner start lines index st)
    (hrun : runFrom cleaner 0 index st (lines.drop index) = .error failure) :
    ∃ v : Visit, Boundary cleaner start lines v.index v.state ∧
      lines.drop v.index = v.line :: v.rest ∧
      step cleaner v.state v.index v.line v.rest = .error failure := by
  refine Boundary.induction_onward (P := fun index st =>
    runFrom cleaner 0 index st (lines.drop index) = .error failure → _) ?_ h hrun
  intro index st h onward hrun
  cases hline : lines.drop index with
  | nil =>
      rw [hline] at hrun
      cases hrun
  | cons line rest =>
      cases hstep : step cleaner st index line rest with
      | ok outcome =>
          rw [runFrom_of_step hline hstep] at hrun
          exact onward hline hstep hrun
      | error failure' =>
          rw [hline, runFrom, hstep] at hrun
          cases hrun
          exact ⟨⟨st, index, line, rest⟩, h, hline, hstep⟩

/-- A run that fails does so at one of its top-level lines. -/
theorem exists_fails_of_run {ignore : IgnoreList}
    (h : run cleaner ignore lines = .error failure) :
    ∃ v ∈ visits cleaner ignore lines, v.Fails failure := by
  obtain ⟨v, hboundary, hline, hstep⟩ := exists_step_of_runFrom Boundary.start h
  exact ⟨v, mem_visits_iff.mpr ⟨hboundary, hline⟩, fails_of_step hstep⟩

end Runs

/-! ## Places -/

/-- What a failure says of a dump. A line that is refused is a line of the dump, and is given as it
stands there or, at a call with all its members on one line, as one of these. A construct that is not
closed is given by its opening line. Nothing else fails but the registry. -/
def Locates (cleaner : Cleaner) (ignore : IgnoreList) (lines : List String) : Error → Prop
  | .unrecognizedLine line text =>
    1 ≤ line ∧ line ≤ lines.length ∧
      (lines[line - 1]? = some text ∨
        ∃ v ∈ visits cleaner ignore lines, v.index + 1 = line ∧
          ∃ shape members, v.shape = some shape ∧ shape.inlineMembers? = some members ∧
            text ∈ memberPieces members)
  | .unterminated start terminator =>
    1 ≤ start ∧ start ≤ lines.length ∧
      ∃ v ∈ visits cleaner ignore lines, ∃ opening ending,
        lines[start - 1]? = some opening ∧ v.LeavesOpen (start - 1) opening ending ∧
          ending.terminator = terminator
  | .registry _ => True
  | _ => False

theorem getElem?_rest (hline : lines.drop v.index = v.line :: v.rest) (offset : Nat) :
    lines[v.index + 1 + offset]? = v.rest[offset]? := by
  have hrest : lines.drop (v.index + 1) = v.rest := drop_step hline 0
  rw [← hrest, List.getElem?_drop]

/-- What is refused is there, but for a member of a list on the line. -/
theorem Visit.Refuses.located {place : Nat} {text : String} (h : v.Refuses place text)
    (hline : lines.drop v.index = v.line :: v.rest) :
    place < lines.length ∧
      (lines[place]? = some text ∨
        v.index = place ∧ ∃ shape members, v.shape = some shape ∧
          shape.inlineMembers? = some members ∧ text ∈ memberPieces members) := by
  have hhere : lines[v.index]? = some v.line := getElem?_of_drop hline
  cases h with
  | line => exact ⟨(List.getElem?_eq_some_iff.mp hhere).1, .inl hhere⟩
  | blockLine hshape htext =>
      rw [← getElem?_rest hline] at htext
      exact ⟨(List.getElem?_eq_some_iff.mp htext).1, .inl htext⟩
  | piece hshape hmembers htext =>
      exact ⟨(List.getElem?_eq_some_iff.mp hhere).1, .inr ⟨rfl, _, _, hshape, hmembers, htext⟩⟩

/-- The opening line of what is left open is there. -/
theorem Visit.LeavesOpen.located {place : Nat} {opening : String} {ending : Ending}
    (h : v.LeavesOpen place opening ending) (hline : lines.drop v.index = v.line :: v.rest) :
    lines[place]? = some opening := by
  cases h with
  | construct | inlineMethod => exact getElem?_of_drop hline
  | blockMethod hshape hheader hopens hmissing =>
      have hbefore := getElem?_of_drop hheader
      rw [getElem?_rest hline]
      obtain ⟨after, hrest⟩ : linesBefore (startsWith "\t\x7d") v.rest <+: v.rest :=
        List.takeWhile_prefix _
      rw [← hrest, List.getElem?_append_left (List.getElem?_eq_some_iff.mp hbefore).1]
      exact hbefore

/-- **Failures are located.** A dump that cannot be read fails at one of its lines or in the
registry, and the failure gives that line. -/
theorem locates_of_run {cleaner : Cleaner} {ignore : IgnoreList}
    (h : run cleaner ignore lines = .error failure) : Locates cleaner ignore lines failure := by
  obtain ⟨v, hv, hfails⟩ := exists_fails_of_run h
  have hline := (mem_visits_iff.mp hv).2
  cases hfails with
  | refuses hrefuses =>
      obtain ⟨hlt, htext⟩ := hrefuses.located hline
      refine ⟨Nat.le_add_left 1 _, hlt, htext.imp id fun ⟨hplace, hpiece⟩ => ?_⟩
      exact ⟨v, hv, congrArg (· + 1) hplace, hpiece⟩
  | leavesOpen hopen =>
      have hopening := hopen.located hline
      exact ⟨Nat.le_add_left 1 _, (List.getElem?_eq_some_iff.mp hopening).1, v, hv, _, _, hopening,
        hopen, rfl⟩
  | registry => trivial

/-- A method that its member block does not close is given by the line of its header. -/
theorem locates_of_run_of_open_method :
    run {} {} ["\t// N.C", "\tvar $C = function() \x7b", "\t\x7d;", "\tss.initClass($C, $asm, \x7b",
        "\t\tsize: 0,", "\t\trun: function() \x7b", "\t\x7d);", "\t\t\x7d"]
      = .error (.unterminated 6 "\x7d") ∧
    Locates {} {} ["\t// N.C", "\tvar $C = function() \x7b", "\t\x7d;",
        "\tss.initClass($C, $asm, \x7b", "\t\tsize: 0,", "\t\trun: function() \x7b", "\t\x7d);",
        "\t\t\x7d"]
      (.unterminated 6 "\x7d") := by
  have hrun : run {} {} ["\t// N.C", "\tvar $C = function() \x7b", "\t\x7d;",
      "\tss.initClass($C, $asm, \x7b", "\t\tsize: 0,", "\t\trun: function() \x7b", "\t\x7d);",
      "\t\t\x7d"] = .error (.unterminated 6 "\x7d") := by
    decide +kernel
  exact ⟨hrun, locates_of_run hrun⟩

end ClassRecovery.Dump
