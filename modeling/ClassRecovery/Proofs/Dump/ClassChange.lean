import ClassRecovery.Proofs.Dump.Initializer

/-!
# States whose classes have been changed

Two runs in lockstep may differ by one change of all their classes, of the registered ones and of the
class being read. Classification sees nothing of a change that leaves variables alone, and a line of
an initializer block declares the same property.
-/

set_option autoImplicit false

namespace ClassRecovery.Dump

/-- The class being read, changed wherever it is kept apart. -/
def Current.map (f : ClassDef → ClassDef) : Current → Current
  | .declared c => .declared (f c)
  | .registered id => .registered id
  | .detached c => .detached (f c)

variable {st st' : State} {f : ClassDef → ClassDef}

/-- A change of all classes that leaves their variables alone does not count for classification. -/
theorem scope_eq_of_changed (hf : ∀ c, (f c).varId = c.varId)
    (hregistry : st'.registry = st.registry.modifyAll f)
    (hcurrent : st'.current = st.current.map (Current.map f)) : st'.scope = st.scope := by
  have hvarId : ClassDef.varId ∘ f = ClassDef.varId := funext hf
  unfold State.scope State.currentClass?
  rw [hcurrent, hregistry]
  cases st.current with
  | none => rfl
  | some current =>
      cases current with
      | declared c | detached c =>
          dsimp only [Option.map_some, Current.map, Option.isSome_some, Option.bind_some]
          rw [hf]
      | registered id =>
          dsimp only [Option.map_some, Current.map, Option.isSome_some]
          rw [Registry.get?_modifyAll, Option.bind_map, hvarId]

/-- A line declares the same property among changed classes. -/
theorem declare_modifyAll {r : Registry} {line : String}
    (hf : ∀ id property c, declared? r line = some (id, property) → r.get? id = some c →
      f (addProperty property c) = addProperty property (f c)) :
    declare (r.modifyAll f) line = (declare r line).modifyAll f := by
  have hdeclared : declared? (r.modifyAll f) line = declared? r line := rfl
  unfold declare
  rw [hdeclared]
  cases hproperty : declared? r line with
  | none => rfl
  | some found =>
      obtain ⟨id, property⟩ := found
      exact (Registry.modify_modifyAll fun c hc => hf id property c hproperty hc).symm

end ClassRecovery.Dump
