import ClassRecovery.Dump.Cleaner
import ClassRecovery.Proofs.Dump.Identifier
import ClassRecovery.Proofs.Text.Substitute
import Mathlib.Data.List.SplitBy

/-!
# The name of a class in its own bodies

In the lines of a class its variable is replaced by its name, and that as plain text. Generated
identifiers often go on from one another, so a line may hold the variable of the class inside the
variable of another one. `renameIdentifier` renames whole identifiers only.

The two agree on a text exactly when the variable stands in no longer identifier of it, unless the
variable is the name (`replaceAll_eq_renameIdentifier_iff`). Hence it is known which lines of a class
name the class and leave every other identifier as it is (`body_eq_renamed_iff`).
-/

set_option autoImplicit false

namespace ClassRecovery.Text

variable {old new s front rest : List Char}

/-! ## Replacing a fixed piece -/

theorem fixedRule_blind (old new : List Char) : Blind (fixedRule old new) := fun _ _ _ => rfl

/-- A character at which the piece does not begin is copied. -/
theorem replaceAll_cons {c : Char} (h : ¬ old <+: c :: s) (new : List Char) :
    replaceAll old new (c :: s) = c :: replaceAll old new s := by
  refine substitute_cons (fixedRule_blind old new) ?_
  rw [fixedRule, if_neg (by rwa [List.isPrefixOf_iff_prefix])]

/-- The piece is replaced where a text begins with it. -/
theorem replaceAll_piece_append (hne : old ≠ []) (new s : List Char) :
    replaceAll old new (old ++ s) = new ++ replaceAll old new s := by
  refine substitute_append (fixedRule_blind old new) hne ?_
  rw [fixedRule, if_pos (List.isPrefixOf_iff_prefix.mpr (List.prefix_append old s))]

theorem replaceAll_piece (hne : old ≠ []) (new : List Char) : replaceAll old new old = new := by
  have h := replaceAll_piece_append hne new []
  rw [List.append_nil] at h
  exact h.trans (List.append_nil new)

/-- A text is empty, or begins with a nonempty piece, or begins with a character at which the piece
does not. -/
@[elab_as_elim]
theorem piece_induction {P : List Char → Prop} (hne : old ≠ []) (nil : P [])
    (found : ∀ rest, P rest → P (old ++ rest))
    (copied : ∀ c rest, ¬ old <+: c :: rest → P rest → P (c :: rest)) (s : List Char) : P s := by
  by_cases hs : old <+: s
  · obtain ⟨rest, hrest⟩ := hs
    rw [← hrest]
    exact found rest (piece_induction hne nil found copied rest)
  · cases s with
    | nil => exact nil
    | cons c rest => exact copied c rest hs (piece_induction hne nil found copied rest)
termination_by s.length
decreasing_by
  · have hpos := List.length_pos_of_ne_nil hne
    rw [← hrest, List.length_append]
    omega
  · simp

/-- A text is replaced up to a place that no occurrence of the piece goes beyond, and from there
on. -/
theorem replaceAll_append (hne : old ≠ []) (new : List Char)
    (h : ∀ tail, tail <:+ front → old <+: tail ++ rest → tail ≠ [] → old <+: tail) :
    replaceAll old new (front ++ rest) = replaceAll old new front ++ replaceAll old new rest := by
  induction front using piece_induction hne with
  | nil => rfl
  | found later ih =>
      rw [List.append_assoc, replaceAll_piece_append hne, replaceAll_piece_append hne,
        ih fun tail htail => h tail (htail.trans (List.suffix_append old later)), List.append_assoc]
  | copied c later hnot ih =>
      have hnot' : ¬ old <+: c :: (later ++ rest) :=
        fun hprefix => hnot (h _ List.suffix_rfl hprefix (List.cons_ne_nil _ _))
      rw [List.cons_append, replaceAll_cons hnot', replaceAll_cons hnot,
        ih fun tail htail => h tail (htail.trans (List.suffix_cons c later)), List.cons_append]

/-- Each piece that is replaced changes the length by the difference of the two. -/
theorem length_replaceAll (hne : old ≠ []) (new s : List Char) :
    ∃ count, (replaceAll old new s).length + count * old.length = s.length + count * new.length ∧
      (count = 0 → ¬ old <:+: s) := by
  induction s using piece_induction hne with
  | nil => exact ⟨0, by simp [replaceAll, substitute, substituteFrom], by simp [hne]⟩
  | found rest ih =>
      obtain ⟨count, hlength, -⟩ := ih
      refine ⟨count + 1, ?_, fun hzero => absurd hzero (Nat.succ_ne_zero count)⟩
      rw [replaceAll_piece_append hne]
      simp only [List.length_append, Nat.add_mul, Nat.one_mul]
      omega
  | copied c rest hnot ih =>
      obtain ⟨count, hlength, hnone⟩ := ih
      refine ⟨count, ?_, fun hzero hwithin => ?_⟩
      · rw [replaceAll_cons hnot]
        simp only [List.length_cons]
        omega
      · rcases List.infix_cons_iff.mp hwithin with hhere | hlater
        · exact hnot hhere
        · exact hnone hzero hlater

theorem replaceAll_of_not_infix (hne : old ≠ []) (h : ¬ old <:+: s) (new : List Char) :
    replaceAll old new s = s := by
  induction s using piece_induction hne with
  | nil => rfl
  | found rest _ => exact absurd (List.prefix_append old rest).isInfix h
  | copied c rest hnot ih =>
      rw [replaceAll_cons hnot, ih fun hlater => h (hlater.trans (List.suffix_cons c rest).isInfix)]

theorem replaceAll_self (hne : old ≠ []) (s : List Char) : replaceAll old old s = s := by
  induction s using piece_induction hne with
  | nil => rfl
  | found rest ih => rw [replaceAll_piece_append hne, ih]
  | copied c rest hnot ih => rw [replaceAll_cons hnot, ih]

/-- A piece of the same length that leaves a text with the old one as it is, is the old one. -/
theorem eq_of_replaceAll_eq_self (hne : old ≠ []) (hlength : new.length = old.length)
    (hwithin : old <:+: s) (h : replaceAll old new s = s) : new = old := by
  induction s using piece_induction hne with
  | nil => exact absurd (List.infix_nil.mp hwithin) hne
  | found rest _ =>
      rw [replaceAll_piece_append hne] at h
      exact (List.append_inj h hlength).1
  | copied c rest hnot ih =>
      rw [replaceAll_cons hnot, List.cons.injEq] at h
      exact ih ((List.infix_cons_iff.mp hwithin).resolve_left hnot) h.2

/-! ## Identifiers of a text -/

/-- Both characters belong to identifiers, or neither does. -/
def sameKind (a b : Char) : Bool := isIdent a == isIdent b

/-- The longest runs of identifier characters of a text, and what stands between them. -/
def pieces (s : List Char) : List (List Char) := s.splitBy sameKind

/-- The text with every identifier that is `old` renamed. An identifier is a longest run of
identifier characters. -/
def renameIdentifier (old new s : List Char) : List Char :=
  (pieces s).flatMap fun piece => if piece = old then new else piece

/-- The text is what its pieces make up. -/
theorem flatten_pieces (s : List Char) : (pieces s).flatten = s := List.flatten_splitBy _ s

/-- Where one piece ends and the next one begins, no identifier goes on. -/
def Apart (front rest : List Char) : Prop :=
  ∀ a ∈ front.getLast?, ∀ b ∈ rest.head?, isIdent a = true → isIdent b = false

/-- An identifier that begins in the front part of a text ends there. -/
theorem prefix_of_apart (hident : ∀ c ∈ old, isIdent c = true) (hapart : Apart front rest)
    {tail : List Char} (htail : tail <:+ front) (hne : tail ≠ []) (h : old <+: tail ++ rest) :
    old <+: tail := by
  rcases List.prefix_or_prefix_of_prefix h (List.prefix_append tail rest) with hwithin | ⟨more, hmore⟩
  · exact hwithin
  · cases more with
    | nil => rw [← hmore, List.append_nil]
    | cons b more =>
        -- the identifier would go on from the last character of the front part
        exfalso
        subst hmore
        obtain ⟨before, rfl⟩ := htail
        have hlast : tail.getLast hne ∈ (before ++ tail).getLast? := by
          rw [List.getLast?_append_of_ne_nil before hne, List.getLast?_eq_some_getLast hne]
          rfl
        have hfirst : b ∈ rest.head? := by
          obtain ⟨after, rfl⟩ := (List.prefix_append_right_inj tail).mp h
          rfl
        have hb : isIdent b = true := hident b (by simp)
        have ha : isIdent (tail.getLast hne) = true :=
          hident _ (List.mem_append_left _ (List.getLast_mem hne))
        rw [hapart _ hlast b hfirst ha] at hb
        cases hb

theorem replaceAll_flatten (hne : old ≠ []) (hident : ∀ c ∈ old, isIdent c = true)
    (new : List Char) {parts : List (List Char)}
    (hparts : parts.IsChain fun a b => ∃ ha hb, sameKind (a.getLast ha) (b.head hb) = false) :
    replaceAll old new parts.flatten = parts.flatMap (replaceAll old new) := by
  induction parts with
  | nil => rfl
  | cons part parts ih =>
      have hapart : Apart part parts.flatten := by
        cases parts with
        | nil => exact fun _ _ _ hb => by cases hb
        | cons next parts =>
            obtain ⟨⟨ha, hb, hkinds⟩, -⟩ := List.isChain_cons_cons.mp hparts
            intro a hlast b hfirst hident
            rw [List.getLast?_eq_some_getLast ha] at hlast
            rw [List.flatten_cons, List.head?_append_of_ne_nil next hb,
              List.head?_eq_some_head hb] at hfirst
            cases hlast
            cases hfirst
            simpa [sameKind, hident] using hkinds
      rw [List.flatten_cons, List.flatMap_cons, replaceAll_append hne new fun tail htail hprefix
        htailne => prefix_of_apart hident hapart htail htailne hprefix, ih hparts.tail]

/-- Replacing a piece of identifier characters is replacing it in each piece of the text. -/
theorem replaceAll_eq_flatMap (hne : old ≠ []) (hident : ∀ c ∈ old, isIdent c = true)
    (new s : List Char) : replaceAll old new s = (pieces s).flatMap (replaceAll old new) := by
  have h := replaceAll_flatten hne hident new (List.isChain_getLast_head_splitBy sameKind s)
  rwa [← pieces, flatten_pieces] at h

/-! ## Replacing and renaming -/

/-- How often a piece is changed otherwise than by renaming shows in the lengths. -/
theorem length_replaceAll_piece (hne : old ≠ []) (new piece : List Char) :
    ∃ count, (replaceAll old new piece).length + count * old.length
        = (if piece = old then new else piece).length + count * new.length ∧
      (count = 0 → old <:+: piece → piece = old) := by
  by_cases hpiece : piece = old
  · subst hpiece
    exact ⟨0, by simp [replaceAll_piece hne], fun _ _ => rfl⟩
  · obtain ⟨count, hlength, hnone⟩ := length_replaceAll hne new piece
    exact ⟨count, by rw [if_neg hpiece, hlength], fun hzero hwithin => absurd hwithin (hnone hzero)⟩

/-- The same of all pieces of a text. -/
theorem length_flatMap_replaceAll (hne : old ≠ []) (new : List Char) (parts : List (List Char)) :
    ∃ count, (parts.flatMap (replaceAll old new)).length + count * old.length
        = (parts.flatMap fun piece => if piece = old then new else piece).length
          + count * new.length ∧
      (count = 0 → ∀ piece ∈ parts, old <:+: piece → piece = old) := by
  induction parts with
  | nil => exact ⟨0, by simp, by simp⟩
  | cons part parts ih =>
      obtain ⟨first, hfirst, hpart⟩ := length_replaceAll_piece hne new part
      obtain ⟨later, hlater, hparts⟩ := ih
      refine ⟨first + later, ?_, fun hzero => ?_⟩
      · simp only [List.flatMap_cons, List.length_append, Nat.add_mul]
        omega
      · obtain ⟨rfl, rfl⟩ := Nat.add_eq_zero_iff.mp hzero
        exact List.forall_mem_cons.mpr ⟨hpart rfl, hparts rfl⟩

/-- Concatenations of equally long pieces are equal only if the pieces are. -/
theorem forall_eq_of_flatMap_eq {f g : List Char → List Char} {parts : List (List Char)}
    (hlength : ∀ piece ∈ parts, (f piece).length = (g piece).length)
    (h : parts.flatMap f = parts.flatMap g) : ∀ piece ∈ parts, f piece = g piece := by
  induction parts with
  | nil => exact nofun
  | cons part parts ih =>
      rw [List.forall_mem_cons] at hlength ⊢
      rw [List.flatMap_cons, List.flatMap_cons] at h
      obtain ⟨hpart, hparts⟩ := List.append_inj h hlength.1
      exact ⟨hpart, ih hlength.2 hparts⟩

/-- Replacing a piece of identifier characters everywhere is renaming the identifiers that it makes
up exactly when no longer identifier of the text contains it, unless the piece stays as it is. -/
theorem replaceAll_eq_renameIdentifier_iff (hne : old ≠ [])
    (hident : ∀ c ∈ old, isIdent c = true) :
    replaceAll old new s = renameIdentifier old new s ↔
      new = old ∨ ∀ piece ∈ pieces s, old <:+: piece → piece = old := by
  rw [replaceAll_eq_flatMap hne hident, renameIdentifier]
  constructor
  · intro h
    obtain ⟨count, hcount, hnone⟩ := length_flatMap_replaceAll hne new (pieces s)
    rw [h, Nat.add_left_cancel_iff] at hcount
    rcases Nat.eq_zero_or_pos count with hzero | hpos
    · exact .inr (hnone hzero)
    · -- nothing moves, so the pieces can be compared one by one
      have hlength : old.length = new.length := Nat.eq_of_mul_eq_mul_left hpos hcount
      have hsame : ∀ piece ∈ pieces s,
          replaceAll old new piece = if piece = old then new else piece := by
        refine forall_eq_of_flatMap_eq (fun piece _ => ?_) h
        obtain ⟨count, hcount, -⟩ := length_replaceAll_piece hne new piece
        rw [hlength] at hcount
        exact Nat.add_right_cancel hcount
      refine or_iff_not_imp_left.mpr fun hnew piece hpiece hwithin => ?_
      by_contra hother
      have h := hsame piece hpiece
      rw [if_neg hother] at h
      exact hnew (eq_of_replaceAll_eq_self hne hlength.symm hwithin h)
  · intro h
    refine List.flatMap_congr fun piece hpiece => ?_
    by_cases hother : piece = old
    · rw [hother, if_pos rfl, replaceAll_piece hne]
    · rw [if_neg hother]
      rcases h with rfl | h
      · exact replaceAll_self hne piece
      · exact replaceAll_of_not_infix hne (fun hwithin => hother (h piece hpiece hwithin)) new

end ClassRecovery.Text

namespace ClassRecovery.Cleaner

open Text Dump

/-! ## The lines of a class -/

/-- The line in which the variable of the class, as an identifier, is its name. -/
def renamedLine (c : ClassDef) (x : Identifier) (line : String) : String :=
  String.ofList (renameIdentifier x.text.toList c.name.toList line.toList)

/-- With generic calls left as they are, the lines of a class are those in which the variable of the
class and no other identifier is renamed, exactly when no longer identifier in them contains the
variable, unless the variable is the name of the class. -/
theorem body_eq_renamed_iff {c : ClassDef} {x : Identifier} (hvar : c.varId = some x.text)
    (lines : List String) :
    Cleaner.body { genericCalls := false, selfReferences := true } c lines
        = lines.map (renamedLine c x) ↔
      c.name = x.text ∨ ∀ line ∈ lines, ∀ piece ∈ pieces line.toList,
        x.text.toList <:+: piece → piece = x.text.toList := by
  have hnamed : x.text.isEmpty = false := by
    rw [Bool.eq_false_iff, ne_eq, String.isEmpty_iff]
    intro hempty
    exact x.ne_nil (by rw [hempty]; rfl)
  have hline (line : String) :
      Cleaner.nameSelf { genericCalls := false, selfReferences := true } c line
        = String.ofList (replaceAll x.text.toList c.name.toList line.toList) := by
    rw [nameSelf, hvar]
    simp [hnamed]
  have hsame (line : String) :
      Cleaner.nameSelf { genericCalls := false, selfReferences := true } c line
          = renamedLine c x line ↔
        c.name = x.text ∨ ∀ piece ∈ pieces line.toList,
          x.text.toList <:+: piece → piece = x.text.toList := by
    rw [hline, renamedLine, String.ofList_inj,
      replaceAll_eq_renameIdentifier_iff x.ne_nil x.isIdent_of_mem, String.toList_inj]
  show lines.map (Cleaner.nameSelf _ c) = _ ↔ _
  rw [List.map_inj_left]
  simp only [hsame, forall_or_left]

theorem body_eq_renamed_of_own_variable :
    Cleaner.body { genericCalls := false, selfReferences := true }
        { space := "Ns", name := "Foo", varId := some "$Ns_Foo" }
        ["\t\t$Ns_Bar.init(new $Ns_Foo(), $Ns_Foo.items);", "\t\t"]
      = ["\t\t$Ns_Bar.init(new Foo(), Foo.items);", "\t\t"] := by
  let x : Identifier := ⟨"$Ns_Foo", by decide, by decide⟩
  have hpieces : ∀ line ∈ ["\t\t$Ns_Bar.init(new $Ns_Foo(), $Ns_Foo.items);", "\t\t"],
      ∀ piece ∈ pieces line.toList, x.text.toList <:+: piece → piece = x.text.toList := by decide
  have hrenamed := (body_eq_renamed_iff
    (c := { space := "Ns", name := "Foo", varId := some "$Ns_Foo" }) (x := x) rfl
    ["\t\t$Ns_Bar.init(new $Ns_Foo(), $Ns_Foo.items);", "\t\t"]).mpr (.inr hpieces)
  rw [hrenamed]
  decide

/-- The variable of another class that goes on from the variable of this one is changed as well. -/
theorem body_ne_renamed_of_longer_variable :
    Cleaner.body { genericCalls := false, selfReferences := true }
        { space := "Ns", name := "Foo", varId := some "$Ns_Foo" } ["\t\t$Ns_FooBar.init();"]
      ≠ ["\t\t$Ns_FooBar.init();"].map
          (renamedLine { space := "Ns", name := "Foo", varId := some "$Ns_Foo" }
            ⟨"$Ns_Foo", by decide, by decide⟩) := by
  decide

end ClassRecovery.Cleaner
