import Mathlib.Data.List.Flatten
import ClassRecovery.Extraction
import ClassRecovery.Proofs.Dump.Boundary
import ClassRecovery.Proofs.Dump.GlobalStatement
import ClassRecovery.Proofs.Dump.Initializer
import ClassRecovery.Proofs.Dump.Performing

/-!
# The global statements of a dump

`Visit.statements` says of each top-level line which global statements it makes, from the text
alone and the variables known by then. With nothing ignored and nothing rewritten, a run records
the statements of all its lines in source order but for one kind of line: a directive, which is
dropped (`globals_eq_statements_iff`).
-/

set_option autoImplicit false

namespace ClassRecovery.Dump

/-! ## Statements -/

/-- The statements of an initializer block with these inner lines. -/
def initializerStatements (registry : Registry) (inner : List String) : List String :=
  "" :: inner.filter fun line => !assignsLiteral registry line

/-- The global statements that a top-level line makes, with the lines of its construct. -/
def Visit.statements (v : Visit) : List String :=
  if IsGlobalStatement v.line then [v.line]
  else
    match v.shape with
    | some .globalBlock => v.line :: linesThrough (startsWith "\t\x7d") v.rest
    | some .initializerBlock =>
      initializerStatements v.state.registry (linesBefore (startsWith "\t\x7d)();") v.rest)
    | _ => []

instance : DecidablePred IsGlobalDirective := fun line =>
  decidable_of_iff (classify {} line = some .globalDirective) classify_eq_globalDirective_iff

/-! ## What an action records -/

/-- The global statements that an action records when nothing is ignored. -/
def Action.statements (registry : Registry) : Action → List String
  | .assignment line _ _ => [line]
  | .block lines => lines
  | .initializer lines => initializerStatements registry lines
  | _ => []

variable {st next final start : State} {line : String} {rest : List String} {index read : Nat}

/-- A line that is no statement on a global records the statements of its construct. -/
theorem statements_of_actionOf {action : Action} {shape : LineShape}
    (hshape : classify st.scope line = some shape) (hline : ¬ IsGlobalStatement line)
    (h : actionOf index line rest shape = .ok (action, read)) :
    action.statements st.registry = Visit.statements ⟨st, index, line, rest⟩ := by
  have hvisit : (Visit.mk st index line rest).shape = some shape := hshape
  rw [Visit.statements, if_neg hline, hvisit]
  cases shape with
  | globalAssignment target value =>
      exact absurd (isGlobalStatement_of_shape hshape (.inr ⟨target, value, rfl⟩)) hline
  | globalBlock =>
      obtain ⟨⟨body, closing⟩, hcut, h⟩ := bind_eq_ok_iff.mp h
      cases h
      show line :: body ++ [closing] = line :: linesThrough _ rest
      rw [linesThrough_of_cut (cutAtClosing_eq_ok_iff.mp hcut)]
      rfl
  | initializerBlock =>
      obtain ⟨⟨body, closing⟩, hcut, h⟩ := bind_eq_ok_iff.mp h
      cases h
      show initializerStatements _ body = initializerStatements _ (linesBefore _ rest)
      rw [linesBefore_of_cut (cutAtClosing_eq_ok_iff.mp hcut)]
  | boilerplate | globalDirective | constructorPrototype | assembly | separator => cases h; rfl
  | staticProperty | classInline | interfaceInline | genericArity | enumInline => cases h; rfl
  | className | constructor | staticMethod =>
      obtain ⟨part, -, h⟩ := bind_eq_ok_iff.mp h
      cases h; rfl
  | classBlock =>
      obtain ⟨⟨body, closing⟩, -, h⟩ := bind_eq_ok_iff.mp h
      obtain ⟨trailer, -, h⟩ := bind_eq_ok_iff.mp h
      cases h; rfl

/-- A line records its statements, unless it is a directive. -/
theorem statements_of_readAction {action : Action}
    (h : readAction st.scope index line rest = .ok (action, read)) :
    action.statements st.registry
      = if IsGlobalDirective line then [] else Visit.statements ⟨st, index, line, rest⟩ := by
  obtain ⟨shape, hshape, haction⟩ := exists_shape_of_readAction h
  by_cases hdirective : IsGlobalDirective line
  · rw [if_pos hdirective]
    rw [classify_eq_globalDirective_iff.mpr hdirective] at hshape
    cases hshape
    cases haction
    rfl
  · rw [if_neg hdirective]
    by_cases hline : IsGlobalStatement line
    · rw [Visit.statements, if_pos hline]
      -- of the two shapes of such a statement, the line has the one that assigns
      rcases @shape_of_isGlobalStatement st.scope line hline with hshape' | ⟨t, v, hshape'⟩
      · exact absurd (classify_eq_globalDirective_iff.mp hshape') hdirective
      · rw [hshape'] at hshape
        cases hshape
        cases haction
        rfl
    · exact statements_of_actionOf hshape hline haction

/-! ## What an action leaves ignored and records -/

/-- The cleaner that rewrites nothing. -/
theorem raw_clean (line : String) : Config.raw.cleaner.clean line = line := rfl

theorem contains_empty (name : String) : ({} : IgnoreList).contains name = false := rfl

theorem modifyCurrent_globals (st : State) (f : ClassDef → ClassDef) :
    (st.modifyCurrent f).globals = st.globals := by
  unfold State.modifyCurrent
  split <;> rfl

/-- With nothing ignored, a line of an initializer block is recorded unless a class takes it. -/
theorem isRecorded_empty (registry : Registry) (line : String) :
    isRecorded {} registry line = !assignsLiteral registry line := by
  have hkept : (InitializerLine.ofLine line).receiver.any ({} : IgnoreList).contains = false := by
    cases (InitializerLine.ofLine line).receiver <;> rfl
  rw [isRecorded, hkept, Bool.not_false, Bool.true_and]

/-- Where nothing is ignored, a constructor leaves it so and records nothing. -/
theorem constructs_raw {varId params : String} {body : List String} (hignore : st.ignore = {})
    (h : Constructs Config.raw.cleaner varId params body st next) :
    next.ignore = {} ∧ next.globals = st.globals := by
  cases h with
  | nothing | registered | extended => exact ⟨hignore, rfl⟩
  | @detached c _ hignored =>
      -- an empty list ignores no class
      rw [hignore, contains_empty] at hignored
      cases hignored

/-- Nothing comes to be ignored where nothing is, and an action records its statements. -/
theorem perform_raw {action : Action} (hignore : st.ignore = {})
    (h : perform Config.raw.cleaner st action = .ok next) :
    next.ignore = {} ∧ next.globals = st.globals ++ action.statements st.registry := by
  cases action with
  | nothing | assembly | separator | className =>
      cases h; exact ⟨hignore, (List.append_nil _).symm⟩
  | assignment line target value =>
      cases h
      unfold addGlobalAssignment
      rw [hignore, contains_empty, contains_empty, raw_clean]
      exact ⟨hignore, rfl⟩
  | block lines =>
      cases h
      have hclean : lines.map Config.raw.cleaner.clean = lines := List.map_id lines
      rw [hclean]
      exact ⟨hignore, rfl⟩
  | constructor varId params body =>
      obtain ⟨hnext, hglobals⟩ := constructs_raw hignore (performConstructor_constructs h)
      exact ⟨hnext, hglobals.trans (List.append_nil _).symm⟩
  | staticMethod member parts =>
      cases h
      rw [modifyCurrent_ignore, modifyCurrent_globals]
      exact ⟨hignore, (List.append_nil _).symm⟩
  | staticProperty member value =>
      cases h
      unfold addStaticProperty
      rw [modifyCurrent_ignore, modifyCurrent_globals]
      exact ⟨hignore, (List.append_nil _).symm⟩
  | bulk varId change =>
      rcases perform_bulk_eq_ok_iff.mp h with ⟨-, rfl⟩ | ⟨id, bulk, -, -, rfl⟩ <;>
        exact ⟨hignore, (List.append_nil _).symm⟩
  | initializer lines =>
      rw [perform_initializer_eq, hignore, funext (isRecorded_empty st.registry)] at h
      cases h
      have hclean (l : List String) : l.map Config.raw.cleaner.clean = l := List.map_id l
      exact ⟨rfl, by rw [hclean]; rfl⟩

/-! ## What a run records -/

/-- From a boundary at which nothing is ignored, the run records the statements of the lines to
come, but for directives. -/
theorem Boundary.globals_eq {lines : List String}
    (h : Boundary Config.raw.cleaner start lines index st)
    (hrun : runFrom Config.raw.cleaner 0 0 start lines = .ok final) (hignore : st.ignore = {}) :
    final.globals = st.globals
      ++ ((visitsFrom Config.raw.cleaner 0 index st (lines.drop index)).filter
        fun v => ¬ IsGlobalDirective v.line).flatMap Visit.statements := by
  refine h.induction_of_runFrom (P := fun index st => st.ignore = {} →
    final.globals = st.globals
      ++ ((visitsFrom Config.raw.cleaner 0 index st (lines.drop index)).filter
        fun v => ¬ IsGlobalDirective v.line).flatMap Visit.statements) ?_ ?_ hrun hignore
  · intro _ _
    rw [List.drop_length]
    exact (List.append_nil _).symm
  · intro index st line rest next read _ hline hstep hnext hignore
    obtain ⟨action, hread, hperform⟩ := (step_eq_ok_iff _ st index line rest).mp hstep
    obtain ⟨hignore', hglobals⟩ := perform_raw hignore hperform
    rw [hnext hignore', hglobals, statements_of_readAction hread, visitsFrom_of_step hline hstep,
      List.filter_cons, List.append_assoc]
    by_cases hdirective : IsGlobalDirective line
    · simp [hdirective]
    · simp [hdirective, List.flatMap_cons]

/-- A selection of lists has the elements of all of them exactly when it leaves out only empty
ones. -/
theorem flatMap_filter_eq_iff {α β : Type} (p : α → Bool) (f : α → List β) (l : List α) :
    (l.filter p).flatMap f = l.flatMap f ↔ ∀ a ∈ l, p a = false → f a = [] := by
  induction l with
  | nil => simp
  | cons a l ih =>
      rw [List.forall_mem_cons, ← ih, List.filter_cons, List.flatMap_cons]
      by_cases ha : p a
      · simp [ha]
      · rw [if_neg ha]
        constructor
        · intro h
          -- the selection is no longer than what it is taken from
          have hle : ((l.filter p).flatMap f).length ≤ (l.flatMap f).length :=
            (List.filter_sublist.flatMap f).length_le
          have hlength := congrArg List.length h
          rw [List.length_append] at hlength
          have hnil : f a = [] := List.eq_nil_of_length_eq_zero (by omega)
          exact ⟨fun _ => hnil, by rw [h, hnil, List.nil_append]⟩
        · rintro ⟨hnil, h⟩
          rw [h, hnil (by simpa using ha), List.nil_append]

/-- **The globals of a raw model.** With nothing ignored and nothing rewritten, the model holds the
statements of the top-level lines in source order, without those of directives. Every directive is
a statement that is lost, so no statement is lost exactly when the dump has no directive at its
top level. -/
theorem globals_eq_statements_iff {lines : List String} {model : RecoveredModel}
    (accepted : recover Config.raw.cleaner {} lines = .ok model) :
    model.globals = ((visits Config.raw.cleaner {} lines).filter
        fun v => ¬ IsGlobalDirective v.line).flatMap Visit.statements ∧
      (model.globals = (visits Config.raw.cleaner {} lines).flatMap Visit.statements ↔
        ∀ v ∈ visits Config.raw.cleaner {} lines, ¬ IsGlobalDirective v.line) := by
  obtain ⟨final, hrun, rfl⟩ := map_eq_ok_iff.mp accepted
  have hglobals : final.model.globals = ((visits Config.raw.cleaner {} lines).filter
      fun v => ¬ IsGlobalDirective v.line).flatMap Visit.statements :=
    Boundary.start.globals_eq hrun rfl
  refine ⟨hglobals, ?_⟩
  rw [hglobals, flatMap_filter_eq_iff]
  refine forall₂_congr fun v _ => ?_
  constructor
  · intro hlost hdirective
    have hnil := hlost (by simpa using hdirective)
    rw [Visit.statements, if_pos hdirective.isGlobalStatement] at hnil
    cases hnil
  · intro hkept hdirective
    exact absurd (by simpa using hdirective) hkept

set_option maxRecDepth 4000 in
/-- A dump without directives: an assignment to a global, and an initializer block of which one
line assigns a literal to a member of a registered class. -/
theorem globals_eq_statements_of_assignments :
    ∃ model, recover Config.raw.cleaner {}
        ["\tglobal.N.total = 1;", "\t// N.C", "\tvar $C = function() \x7b", "\t\x7d;",
          "\t(function() \x7b", "\t\t$C.items = [];", "\t\t$C.start(1);", "\t\x7d)();"]
        = .ok model ∧
      model.globals = ["\tglobal.N.total = 1;", "", "\t\t$C.start(1);"] := by
  refine exists_ok_and (by decide +kernel) fun model accepted => ?_
  rw [(globals_eq_statements_iff accepted).2.mpr (by decide +kernel)]
  decide +kernel

/-- The statement of a directive is lost. -/
theorem globals_ne_statements_of_directive :
    ∃ model, recover Config.raw.cleaner {} ["\tglobal.init();"] = .ok model ∧
      model.globals = [] ∧
      (visits Config.raw.cleaner {} ["\tglobal.init();"]).flatMap Visit.statements
        = ["\tglobal.init();"] :=
  ⟨_, rfl, rfl, by decide +kernel⟩

end ClassRecovery.Dump
