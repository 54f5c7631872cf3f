import ClassRecovery.Proofs.Dump.Performing

/-!
# Bulk calls on unknown variables

A bulk call says something of the class that its variable stands for. If the variable stands for
none, because it has never been bound or because its class is ignored, the call is passed over with
all its lines, and nothing that it says is looked at: neither its members nor what follows them.

There is one exception. The trailer of a member block is read before it is known whether there is a
class to apply it to, so a block is passed over exactly when its closing line has a trailer
(`step_unbound_iff`), and else the run ends there (`step_unbound_of_malformed`).
-/

set_option autoImplicit false

namespace ClassRecovery.Dump

/-- The variable whose class a bulk call is about. -/
def LineShape.target? : LineShape → Option String
  | .classBlock varId | .classInline varId _ _ | .interfaceInline varId _ _
  | .genericArity varId _ | .enumInline varId _ _ => some varId
  | _ => none

/-- How many of the lines after its opening line a bulk call has: only a member block has any, and
its last one is the first line that closes it. -/
def LineShape.extent (rest : List String) : LineShape → Nat
  | .classBlock _ => (linesBefore (startsWith "\t\x7d") rest).length + 1
  | _ => 0

variable {cleaner : Cleaner} {st : State} {index read : Nat} {line varId closing : String}
  {rest body : List String} {shape : LineShape} {change : Except Error BulkChange}

/-! ## Reading a bulk call -/

/-- A bulk call on one line is read, whatever it says. -/
theorem actionOf_of_target (htarget : shape.target? = some varId)
    (hline : shape ≠ .classBlock varId) (index : Nat) (line : String) (rest : List String) :
    ∃ change, actionOf index line rest shape = .ok (.bulk varId change, shape.extent rest) := by
  cases shape with
  | classBlock => cases htarget; exact absurd rfl hline
  | classInline | interfaceInline | genericArity | enumInline => cases htarget; exact ⟨_, rfl⟩
  | _ => cases htarget

/-- A member block is read if its closing line has a trailer. -/
theorem actionOf_classBlock {trailer : Trailer}
    (hcut : cutAtClosing? (startsWith "\t\x7d") rest = some (body, closing))
    (htrailer : closingTrailer? closing = some trailer) (index : Nat) (line varId : String) :
    ∃ change, actionOf index line rest (.classBlock varId)
      = .ok (.bulk varId change, body.length + 1) := by
  refine ⟨classChange (readBlock (index + 1) body) (.ok trailer), ?_⟩
  refine bind_eq_ok_iff.mpr ⟨(body, closing), cutAtClosing_eq_ok_iff.mpr hcut, ?_⟩
  exact bind_eq_ok_iff.mpr ⟨trailer, partOf_eq_ok_iff.mpr htrailer, rfl⟩

/-- It is refused, at its closing line, if that has none. -/
theorem actionOf_classBlock_of_malformed
    (hcut : cutAtClosing? (startsWith "\t\x7d") rest = some (body, closing))
    (htrailer : closingTrailer? closing = none) (index : Nat) (line varId : String) :
    actionOf index line rest (.classBlock varId)
      = .error (.unrecognizedAt (index + 1 + body.length) closing) := by
  have hclosed : cutAtClosing (startsWith "\t\x7d") "\\t\x7d" index rest = .ok (body, closing) :=
    cutAtClosing_eq_ok_iff.mpr hcut
  simp only [actionOf, hclosed, ok_bind, htrailer, partOf]
  rfl

/-! ## Steps -/

/-- A bulk call that is read is passed over if its variable stands for no class. -/
theorem step_of_bulk (hshape : classify st.scope line = some shape)
    (haction : actionOf index line rest shape = .ok (.bulk varId change, read))
    (hunbound : st.registry.findByVar? varId = none) :
    step cleaner st index line rest = .ok (st, read) := by
  refine (step_eq_ok_iff ..).mpr ⟨.bulk varId change, ?_, ?_⟩
  · rw [readAction, hshape]
    exact haction
  · exact perform_bulk_eq_ok_iff.mpr (.inl ⟨hunbound, rfl⟩)

/-- A member block whose closing line has no trailer ends the run, whether there is a class for its
members or not. -/
theorem step_unbound_of_malformed (hshape : classify st.scope line = some (.classBlock varId))
    (hcut : cutAtClosing? (startsWith "\t\x7d") rest = some (body, closing))
    (htrailer : closingTrailer? closing = none) (cleaner : Cleaner) (index : Nat) :
    step cleaner st index line rest
      = .error (.unrecognizedAt (index + 1 + body.length) closing) := by
  rw [step_eq, readAction, hshape]
  dsimp only
  rw [actionOf_classBlock_of_malformed hcut htrailer]
  rfl

/-- **Unknown targets.** In whatever state, a bulk call on a variable that stands for no class leaves
the state as it is and is passed over with all its lines, exactly when it is no member block or the
closing line of the block has a trailer. -/
theorem step_unbound_iff (hshape : classify st.scope line = some shape)
    (htarget : shape.target? = some varId) (hunbound : st.registry.findByVar? varId = none)
    (hclosed : shape = .classBlock varId → ∃ closing ∈ rest, startsWith "\t\x7d" closing = true)
    (cleaner : Cleaner) (index : Nat) :
    step cleaner st index line rest = .ok (st, shape.extent rest) ↔
      (shape = .classBlock varId →
        ∀ closing, rest.find? (startsWith "\t\x7d") = some closing →
          (closingTrailer? closing).isSome = true) := by
  by_cases hblock : shape = .classBlock varId
  · subst hblock
    obtain ⟨body, closing, hcut⟩ := exists_cut (hclosed rfl)
    have hfind := find?_of_cut hcut
    have hextent : (LineShape.classBlock varId).extent rest = body.length + 1 := by
      rw [LineShape.extent, linesBefore_of_cut hcut]
    cases htrailer : closingTrailer? closing with
    | some trailer =>
        obtain ⟨change, haction⟩ := actionOf_classBlock hcut htrailer index line varId
        rw [hextent]
        refine iff_of_true (step_of_bulk hshape haction hunbound) fun _ last hlast => ?_
        rw [hfind, Option.some_inj] at hlast
        rw [← hlast, htrailer]
        rfl
    | none =>
        rw [step_unbound_of_malformed hshape hcut htrailer]
        refine iff_of_false nofun fun hall => ?_
        have hsome := hall rfl closing hfind
        rw [htrailer] at hsome
        cases hsome
  · obtain ⟨change, haction⟩ := actionOf_of_target htarget hblock index line rest
    exact iff_of_true (step_of_bulk hshape haction hunbound) fun h => absurd h hblock

/-- The state after the constructor of an ignored class, with another class in the registry. -/
def ignoredClassState : State where
  current := some (.detached { space := "Ns", name := "A", varId := some "$Ns_A" })
  ignore := ⟨["Ns.A", "$Ns_A"]⟩
  registry := Registry.ofList [{ space := "Ns", name := "B", varId := some "$Ns_B" }]

/-- Lines that are no members do not matter for an ignored class. -/
theorem step_unbound_of_ignored_class :
    step {} ignoredClassState 7 "\tss.initClass($Ns_A, $asm, \x7b"
        ["\t\tno member", "\t\x7d, $Ns_B, [$Ns_I]);", "\x7d)();"]
      = .ok (ignoredClassState, 2) := by
  have hshape : classify ignoredClassState.scope "\tss.initClass($Ns_A, $asm, \x7b"
      = some (.classBlock "$Ns_A") := by decide
  have hclosing : ["\t\tno member", "\t\x7d, $Ns_B, [$Ns_I]);", "\x7d)();"].find?
      (startsWith "\t\x7d") = some "\t\x7d, $Ns_B, [$Ns_I]);" := by decide
  refine (step_unbound_iff hshape rfl (by decide) (fun _ => by decide) {} 7).mpr ?_
  intro _ closing hfind
  obtain rfl := Option.some.inj (hclosing.symm.trans hfind)
  decide

/-- Interfaces without brackets are no trailer: a block of a class that is nowhere known ends the
run, though the same call on one line is passed over. -/
theorem step_unbound_of_bare_interface :
    classify (State.scope {}) "\tss.initClass($Ns_A, $asm, \x7b" = some (.classBlock "$Ns_A") ∧
      ({} : State).registry.findByVar? "$Ns_A" = none ∧
      step {} {} 0 "\tss.initClass($Ns_A, $asm, \x7b" ["\t\x7d, null, $Ns_I);"]
        = .error (.unrecognizedAt 1 "\t\x7d, null, $Ns_I);") ∧
      step {} {} 0 "\tss.initClass($Ns_A, $asm, \x7b\x7d, null, $Ns_I);" [] = .ok ({}, 0) := by
  decide

end ClassRecovery.Dump
