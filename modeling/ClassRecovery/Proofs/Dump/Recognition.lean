import ClassRecovery.Dump.Recognition

/-!
# The recognizer behind a shape

Every recognizer answers shapes of one kind only, so the shape of a line tells which recognizer
has answered it (`recognizer_of_classify`).
-/

set_option autoImplicit false

namespace ClassRecovery.Dump

open Text

/-- The recognizer that answers shapes of this kind. -/
def LineShape.recognizer (scope : Scope) : LineShape → List Char → Option LineShape
  | .boilerplate => boilerplate?
  | .globalAssignment .. => globalAssignment?
  | .globalDirective => globalDirective?
  | .constructorPrototype => constructorPrototype?
  | .globalBlock => globalBlock?
  | .assembly _ => assembly?
  | .separator => separator?
  | .className _ => className?
  | .constructor .. => constructor? scope
  | .staticMethod .. => staticMethod? scope
  | .staticProperty .. => staticProperty? scope
  | .classBlock _ => classBlock?
  | .classInline .. => classInline?
  | .interfaceInline .. => interfaceInline?
  | .genericArity .. => genericArity?
  | .enumInline .. => enumInline?
  | .initializerBlock => initializerBlock?

/-- A recognizer answers no shapes but its own. -/
theorem recognizer_eq_of_mem {scope : Scope} {recognize : List Char → Option LineShape}
    (h : recognize ∈ recognizers scope) {line : List Char} {shape : LineShape}
    (answer : recognize line = some shape) : shape.recognizer scope = recognize := by
  simp only [recognizers, List.mem_cons, List.not_mem_nil, or_false] at h
  rcases h with rfl | rfl | rfl | rfl | rfl | rfl | rfl | rfl | rfl | rfl | rfl | rfl | rfl | rfl
    | rfl | rfl | rfl
  · simp only [boilerplate?] at answer
    split at answer <;> cases answer; rfl
  · simp only [globalAssignment?, Option.bind_eq_bind, Option.bind_eq_some_iff] at answer
    obtain ⟨_, _, _, _, h⟩ := answer
    cases h; rfl
  · simp only [globalDirective?, Option.map_eq_some_iff] at answer
    obtain ⟨_, _, rfl⟩ := answer; rfl
  · simp only [constructorPrototype?] at answer
    split at answer
    · split at answer <;> cases answer; rfl
    · cases answer
  · simp only [globalBlock?] at answer
    split at answer <;> cases answer; rfl
  · simp only [assembly?, Option.map_eq_some_iff] at answer
    obtain ⟨_, _, rfl⟩ := answer; rfl
  · simp only [separator?] at answer
    split at answer <;> cases answer; rfl
  · simp only [className?, Option.map_eq_some_iff] at answer
    obtain ⟨_, _, rfl⟩ := answer; rfl
  · simp only [constructor?, Option.bind_eq_bind] at answer
    split at answer
    · simp only [Option.bind_eq_some_iff] at answer
      obtain ⟨_, _, _, _, h⟩ := answer
      cases h; rfl
    · cases answer
  · simp only [staticMethod?, Option.bind_eq_bind, Option.bind_eq_some_iff] at answer
    obtain ⟨_, _, _, _, _, _, h⟩ := answer
    cases h; rfl
  · simp only [staticProperty?, Option.bind_eq_bind, Option.bind_eq_some_iff] at answer
    obtain ⟨_, _, _, _, _, _, h⟩ := answer
    cases h; rfl
  · simp only [classBlock?, Option.map_eq_some_iff] at answer
    obtain ⟨_, _, rfl⟩ := answer; rfl
  · simp only [classInline?, Option.map_eq_some_iff] at answer
    obtain ⟨_, _, rfl⟩ := answer; rfl
  · simp only [interfaceInline?, Option.map_eq_some_iff] at answer
    obtain ⟨_, _, rfl⟩ := answer; rfl
  · simp only [genericArity?, Option.bind_eq_bind, Option.bind_eq_some_iff] at answer
    obtain ⟨_, _, _, _, _, _, h⟩ := answer
    cases h; rfl
  · simp only [enumInline?, Option.bind_eq_bind, Option.bind_eq_some_iff] at answer
    obtain ⟨_, _, _, _, _, _, h⟩ := answer
    cases h; rfl
  · simp only [initializerBlock?] at answer
    split at answer <;> cases answer; rfl

/-- The shape of a line is what its recognizer answers. -/
theorem recognizer_of_classify {scope : Scope} {line : String} {shape : LineShape}
    (h : classify scope line = some shape) : shape.recognizer scope line.toList = some shape := by
  obtain ⟨recognize, hmem, answer⟩ := List.exists_of_findSome?_eq_some h
  rw [recognizer_eq_of_mem hmem answer, answer]

/-- A constructor is recognized only where a class has been named. -/
theorem hasClass_of_classify_constructor {scope : Scope} {line varId params : String}
    (h : classify scope line = some (.constructor varId params)) : scope.hasClass = true := by
  have answer := recognizer_of_classify h
  simp only [LineShape.recognizer, constructor?] at answer
  split at answer
  · assumption
  · cases answer

end ClassRecovery.Dump
