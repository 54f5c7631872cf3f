import ClassRecovery.Proofs.Dump.MethodBlock
import ClassRecovery.Proofs.Dump.UnknownTarget

/-!
# The forms of a trailer

A trailer has one of four forms: it is empty, a base class `, B`, a list of interfaces
`, null, [L]`, or both, `, B, [L]`. Which texts are taken for `B` and for `L` is a parameter of the
forms. They are read with any text without comma and space for `B`
(`Trailer.ofText?_eq_some_iff`); the documented forms leave out the brackets and `null` as well. So
a list of interfaces without the `null` before it is read as a base class.
-/

set_option autoImplicit false

namespace ClassRecovery.Dump

open Text

/-! ## Forms -/

/-- The text `, B, [L]`. -/
def withList (base list : String) : String := ", " ++ base ++ ", [" ++ list ++ "]"

/-- Which texts stand for the base class in `, B` and in `, B, [L]`, and for the list. -/
structure TrailerForms where
  base : String → Prop
  leading : String → Prop
  list : String → Prop

/-- The text has one of the four forms, and says this. -/
def TrailerForms.Reads (forms : TrailerForms) (text : String) : Trailer → Prop
  | .empty => text = ""
  | .base name => forms.base name ∧ text = ", " ++ name
  | .interfaces items =>
    ∃ list, forms.list list ∧ text = withList "null" list ∧ ItemsOf list items
  | .baseAndInterfaces name items =>
    ∃ list, forms.leading name ∧ forms.list list ∧ text = withList name list ∧ ItemsOf list items

/-- A nonempty text without comma and space. -/
structure IsPlainName (name : String) : Prop where
  ne_empty : name ≠ ""
  comma : ',' ∉ name.toList
  space : ' ' ∉ name.toList

/-- A square bracket is in the text. -/
def HasBracket (name : String) : Prop := '[' ∈ name.toList ∨ ']' ∈ name.toList

/-- The name of a base class. -/
structure IsBaseName (name : String) : Prop extends IsPlainName name where
  bracket : ¬ HasBracket name
  ne_null : name ≠ "null"

/-- The forms with the name of a class for the base, and with any list. -/
def documentedForms : TrailerForms where
  base := IsBaseName
  leading := IsBaseName
  list _ := True

/-- The forms as they are read. -/
def acceptedForms : TrailerForms where
  base := IsPlainName
  leading name := IsPlainName name ∧ name ≠ "null"
  list text := '\n' ∉ text.toList

/-! ## Reading -/

section Reading

variable {text name list name' list' : String} {s : List Char} {trailer : Trailer}

theorem isPlainName_iff :
    IsPlainName name ↔ name.toList ≠ [] ∧ ∀ c ∈ name.toList, Trailer.isBaseChar c = true := by
  have hchars : (∀ c ∈ name.toList, Trailer.isBaseChar c = true)
      ↔ ',' ∉ name.toList ∧ ' ' ∉ name.toList := by
    simp only [Trailer.isBaseChar, Bool.and_eq_true, bne_iff_ne, ne_eq]
    constructor
    · intro h
      exact ⟨fun hmem => (h _ hmem).1 rfl, fun hmem => (h _ hmem).2 rfl⟩
    · rintro ⟨hcomma, hspace⟩ c hc
      exact ⟨fun heq => hcomma (heq ▸ hc), fun heq => hspace (heq ▸ hc)⟩
  rw [hchars, ne_eq, String.toList_eq_nil_iff]
  exact ⟨fun h => ⟨h.ne_empty, h.comma, h.space⟩, fun h => ⟨h.1, h.2.1, h.2.2⟩⟩

theorem toList_withList (name list : String) :
    (withList name list).toList
      = ", ".toList ++ (name.toList ++ ',' :: (" [".toList ++ list.toList ++ [']'])) := by
  simp [withList]

/-- A base class and a list are read off the text that is made of them. -/
theorem withList_inj (h : ',' ∉ name.toList) (h' : ',' ∉ name'.toList) :
    withList name list = withList name' list' ↔ name = name' ∧ list = list' := by
  have hrun {s : List Char} (hs : ',' ∉ s) : ∀ c ∈ s, (c != ',') = true := by
    intro c hc
    rw [bne_iff_ne]
    exact fun heq => hs (heq ▸ hc)
  rw [← String.toList_inj, toList_withList, toList_withList, List.append_cancel_left_eq,
    append_cons_inj (hrun h) (by decide) (hrun h') (by decide), List.append_cancel_right_eq,
    List.append_cancel_left_eq, String.toList_inj, String.toList_inj]
  simp

theorem withList_ne_base (h : ',' ∉ name'.toList) : withList name list ≠ ", " ++ name' := by
  intro heq
  rw [← String.toList_inj, toList_withList, String.toList_append, List.append_cancel_left_eq] at heq
  exact h (heq ▸ List.mem_append_right _ List.mem_cons_self)

theorem Trailer.base?_eq_some_iff :
    base? text.toList = some trailer ↔
      ∃ name, IsPlainName name ∧ text = ", " ++ name ∧ trailer = .base name := by
  constructor
  · intro h
    cases hcut : ", ".toList.isPrefixOf? text.toList with
    | none => simp only [base?, hcut, reduceCtorEq] at h
    | some name =>
        simp only [base?, hcut, Option.ite_none_right_eq_some, Option.some.injEq] at h
        obtain ⟨hplain, rfl⟩ := h
        rw [List.isPrefixOf?_eq_some_iff_append_eq] at hcut
        refine ⟨String.ofList name, isPlainName_iff.mpr ?_, ?_, rfl⟩
        · simpa [String.toList_ofList] using hplain
        · rw [← String.toList_inj, String.toList_append, ← hcut, String.toList_ofList (l := name)]
  · rintro ⟨name, hname, rfl, rfl⟩
    have hcut : ", ".toList.isPrefixOf? (", " ++ name).toList = some name.toList :=
      List.isPrefixOf?_eq_some_iff_append_eq.mpr String.toList_append.symm
    have hplain : (!name.toList.isEmpty && name.toList.all isBaseChar) = true := by
      simpa using isPlainName_iff.mp hname
    simp only [base?, hcut, hplain, if_true, String.ofList_toList]

theorem Trailer.interfaces?_eq_some_iff :
    interfaces? text.toList = some trailer ↔
      ∃ list : String, '\n' ∉ list.toList ∧ text = withList "null" list ∧
        trailer = .interfaces (splitItems list.toList) := by
  have hwhole (list : String) :
      text = withList "null" list ↔ text.toList = ", null, [".toList ++ list.toList ++ [']'] := by
    rw [← String.toList_inj, toList_withList]
    rfl
  simp only [interfaces?, Option.map_eq_some_iff, between?_onOneLine_eq_some_iff, hwhole]
  constructor
  · rintro ⟨list, ⟨hline, htext⟩, rfl⟩
    refine ⟨String.ofList list, ?_, ?_, ?_⟩ <;> rw [String.toList_ofList (l := list)]
    · exact hline
    · exact htext
  · rintro ⟨list, hline, htext, rfl⟩
    exact ⟨list.toList, ⟨hline, htext⟩, rfl⟩

theorem Trailer.baseAndInterfaces?_eq_some_iff :
    baseAndInterfaces? text.toList = some trailer ↔
      ∃ name list : String, IsPlainName name ∧ '\n' ∉ list.toList ∧ text = withList name list ∧
        trailer = .baseAndInterfaces name (splitItems list.toList) := by
  have hcomma : isBaseChar ',' = false := by decide
  simp only [baseAndInterfaces?, Option.bind_eq_bind, Option.bind_eq_some_iff,
    between?_onOneLine_eq_some_iff, Option.ite_none_left_eq_some, Option.some.injEq,
    List.isPrefixOf?_eq_some_iff_append_eq]
  constructor
  · rintro ⟨rest, htext, list, ⟨hline, hrest⟩, hname, rfl⟩
    have hplain : IsPlainName (String.ofList (rest.takeWhile isBaseChar)) := by
      rw [isPlainName_iff, String.toList_ofList]
      exact ⟨by simpa using hname, List.all_eq_true.mp List.all_takeWhile⟩
    refine ⟨_, String.ofList list, hplain, ?_, ?_, ?_⟩
    · rwa [String.toList_ofList]
    · have hwhole : rest.takeWhile isBaseChar ++ rest.dropWhile isBaseChar = rest :=
        List.takeWhile_append_dropWhile
      rw [← String.toList_inj, toList_withList, String.toList_ofList (l := list),
        String.toList_ofList (l := rest.takeWhile isBaseChar), ← htext]
      nth_rewrite 1 [← hwhole, hrest]
      simp
    · rw [String.toList_ofList]
  · rintro ⟨name, list, hname, hline, rfl, rfl⟩
    have hchars := (isPlainName_iff.mp hname).2
    refine ⟨name.toList ++ ',' :: (" [".toList ++ list.toList ++ [']']),
      (toList_withList name list).symm, list.toList, ⟨hline, ?_⟩, ?_, ?_⟩
    · rw [dropWhile_append_cons hchars hcomma]
      rfl
    · rw [takeWhile_append_cons hchars hcomma]
      simpa using hname.ne_empty
    · rw [takeWhile_append_cons hchars hcomma, String.ofList_toList]

theorem Trailer.base?_withList (name list : String) :
    base? (withList name list).toList = none := by
  rw [Option.eq_none_iff_forall_ne_some]
  intro trailer h
  obtain ⟨name', hname', heq, -⟩ := base?_eq_some_iff.mp h
  exact withList_ne_base hname'.comma heq

theorem Trailer.interfaces?_withList (hname : IsPlainName name) (hnull : name ≠ "null")
    (list : String) : interfaces? (withList name list).toList = none := by
  rw [Option.eq_none_iff_forall_ne_some]
  intro trailer h
  obtain ⟨list', -, heq, -⟩ := interfaces?_eq_some_iff.mp h
  exact hnull ((withList_inj hname.comma (by decide)).mp heq).1

/-- No form but the empty one has no text. -/
theorem TrailerForms.reads_empty_iff (forms : TrailerForms) :
    forms.Reads "" trailer ↔ trailer = .empty := by
  have hcomma {rest : String} : "" ≠ ", " ++ rest := by
    intro h
    rw [← String.toList_inj, String.toList_append] at h
    cases h
  have hlist (name list : String) : "" ≠ withList name list := by
    rw [withList, String.append_assoc, String.append_assoc, String.append_assoc]
    exact hcomma
  cases trailer with
  | empty => exact iff_of_true rfl rfl
  | base name => exact iff_of_false (fun h => hcomma h.2) nofun
  | interfaces items =>
      exact iff_of_false (fun ⟨list, _, h, _⟩ => hlist "null" list h) nofun
  | baseAndInterfaces name items =>
      exact iff_of_false (fun ⟨list, _, _, h, _⟩ => hlist name list h) nofun

/-- What a trailer is read as. -/
theorem Trailer.ofText?_eq_some_iff :
    ofText? text = some trailer ↔ acceptedForms.Reads text trailer := by
  rcases eq_or_ne text "" with rfl | hne
  · have hempty : ofText? "" = some .empty := rfl
    rw [hempty, TrailerForms.reads_empty_iff, Option.some_inj, eq_comm]
  have hsome : text.isEmpty = false := by simpa using hne
  rw [ofText?, hsome, if_neg Bool.false_ne_true]
  constructor
  · intro h
    rcases Option.or_eq_some_iff.mp h with hbase | ⟨-, h⟩
    · obtain ⟨name, hname, htext, rfl⟩ := base?_eq_some_iff.mp hbase
      exact ⟨hname, htext⟩
    rcases Option.or_eq_some_iff.mp h with hlist | ⟨hnone, hboth⟩
    · obtain ⟨list, hline, htext, rfl⟩ := interfaces?_eq_some_iff.mp hlist
      exact ⟨list, hline, htext, splitItems_eq_iff.mp rfl⟩
    · obtain ⟨name, list, hname, hline, htext, rfl⟩ := baseAndInterfaces?_eq_some_iff.mp hboth
      refine ⟨list, ⟨hname, ?_⟩, hline, htext, splitItems_eq_iff.mp rfl⟩
      -- with `null` it would have been read as interfaces alone
      rintro rfl
      rw [interfaces?_eq_some_iff.mpr ⟨list, hline, htext, rfl⟩] at hnone
      cases hnone
  · intro h
    cases trailer with
    | empty => exact absurd h hne
    | base name =>
        obtain ⟨hname, htext⟩ := h
        exact Option.or_eq_some_iff.mpr (.inl (base?_eq_some_iff.mpr ⟨name, hname, htext, rfl⟩))
    | interfaces items =>
        obtain ⟨list, hline, rfl, hitems⟩ := h
        rw [base?_withList, Option.none_or, interfaces?_eq_some_iff.mpr ⟨list, hline, rfl, rfl⟩,
          splitItems_eq_iff.mpr hitems]
        rfl
    | baseAndInterfaces name items =>
        obtain ⟨list, ⟨hname, hnull⟩, hline, rfl, hitems⟩ := h
        rw [base?_withList, Option.none_or, interfaces?_withList hname hnull, Option.none_or,
          baseAndInterfaces?_eq_some_iff.mpr ⟨name, list, hname, hline, rfl, rfl⟩,
          splitItems_eq_iff.mpr hitems]

/-- No form fits a trailer that is not read. -/
theorem Trailer.ofText?_eq_none_iff :
    ofText? text = none ↔ ∀ trailer, ¬ acceptedForms.Reads text trailer := by
  simp only [Option.eq_none_iff_forall_ne_some, ne_eq, ofText?_eq_some_iff]

end Reading

/-! ## Trailers that are misread -/

/-- The trailers on which the forms that are read differ from the documented ones. -/
inductive Misread : String → Prop
  /-- `null`, or a text with brackets such as a list, in place of a base class. -/
  | base {name : String} (hname : IsPlainName name) (h : name = "null" ∨ HasBracket name) :
      Misread (", " ++ name)
  /-- A text with brackets as the base class before a list. -/
  | leading {name list : String} (hname : IsPlainName name) (hbracket : HasBracket name)
      (hline : '\n' ∉ list.toList) : Misread (withList name list)
  /-- A line feed in the list. -/
  | broken {name list : String} (hname : IsPlainName name) (hbracket : ¬ HasBracket name)
      (hline : '\n' ∈ list.toList) : Misread (withList name list)

section Misread

variable {text : String} {trailer : Trailer}

theorem isPlainName_null : IsPlainName "null" := ⟨by decide, by decide, by decide⟩

theorem not_hasBracket_null : ¬ HasBracket "null" := by
  rintro (h | h)
  · exact absurd h (by decide)
  · exact absurd h (by decide)

/-- On a misread trailer the forms differ. -/
theorem Misread.differs (h : Misread text) :
    ¬ ∀ trailer, acceptedForms.Reads text trailer ↔ documentedForms.Reads text trailer := by
  intro hsame
  cases h with
  | base hname hother =>
      have hdoc : IsBaseName _ := ((hsame (.base _)).mp ⟨hname, rfl⟩).1
      exact hother.elim hdoc.ne_null hdoc.bracket
  | @leading name list hname hbracket hline =>
      have hnull : name ≠ "null" := by
        rintro rfl
        exact not_hasBracket_null hbracket
      obtain ⟨-, hdoc, -⟩ := (hsame (.baseAndInterfaces name (splitItems list.toList))).mp
        ⟨list, ⟨hname, hnull⟩, hline, rfl, splitItems_eq_iff.mp rfl⟩
      exact hdoc.bracket hbracket
  | @broken name list hname hbracket hline =>
      have hitems : ItemsOf list (splitItems list.toList) := splitItems_eq_iff.mp rfl
      rcases eq_or_ne name "null" with rfl | hnull
      · obtain ⟨list', hline', heq, -⟩ :=
          (hsame (.interfaces _)).mpr ⟨list, trivial, rfl, hitems⟩
        obtain ⟨-, rfl⟩ := (withList_inj hname.comma hname.comma).mp heq
        exact hline' hline
      · obtain ⟨list', -, hline', heq, -⟩ := (hsame (.baseAndInterfaces name _)).mpr
          ⟨list, ⟨hname, hbracket, hnull⟩, trivial, rfl, hitems⟩
        obtain ⟨-, rfl⟩ := (withList_inj hname.comma hname.comma).mp heq
        exact hline' hline

/-- On any other trailer they agree, form by form. -/
theorem reads_accepted_iff_of_not_misread (h : ¬ Misread text) :
    acceptedForms.Reads text trailer ↔ documentedForms.Reads text trailer := by
  cases trailer with
  | empty => exact Iff.rfl
  | base name =>
      constructor
      · rintro ⟨hname, rfl⟩
        refine ⟨⟨hname, fun hbracket => ?_, fun hnull => ?_⟩, rfl⟩
        · exact h (.base hname (.inr hbracket))
        · exact h (.base hname (.inl hnull))
      · rintro ⟨hname, rfl⟩
        exact ⟨hname.toIsPlainName, rfl⟩
  | interfaces items =>
      constructor
      · rintro ⟨list, -, htext, hitems⟩
        exact ⟨list, trivial, htext, hitems⟩
      · rintro ⟨list, -, rfl, hitems⟩
        refine ⟨list, fun hline => ?_, rfl, hitems⟩
        exact h (.broken isPlainName_null not_hasBracket_null hline)
  | baseAndInterfaces name items =>
      constructor
      · rintro ⟨list, ⟨hname, hnull⟩, hline, rfl, hitems⟩
        refine ⟨list, ⟨hname, fun hbracket => ?_, hnull⟩, trivial, rfl, hitems⟩
        exact h (.leading hname hbracket hline)
      · rintro ⟨list, hname, -, rfl, hitems⟩
        refine ⟨list, ⟨hname.toIsPlainName, hname.ne_null⟩, fun hline => ?_, rfl, hitems⟩
        exact h (.broken hname.toIsPlainName hname.bracket hline)

/-- The documented forms are read on all trailers that are not misread, and only there. -/
theorem reads_accepted_iff_documented :
    (∀ trailer, acceptedForms.Reads text trailer ↔ documentedForms.Reads text trailer) ↔
      ¬ Misread text :=
  ⟨fun hsame h => h.differs hsame, fun h _ => reads_accepted_iff_of_not_misread h⟩

end Misread

/-! ## Calls on classes -/

/-- A call that says something of a class, with this trailer, its variable, what is read of its
members, and how many lines it has after the first: on one line, if the variable stands for a class,
or over several lines of which the first closing one has the trailer. -/
inductive ClassCall (st : State) (index : Nat) (line : String) (rest : List String)
    (trailer : String) : String → Except Error (List Member) → Nat → Prop
  | inline {varId written : String} {id : Nat}
      (hshape : classify st.scope line = some (.classInline varId written trailer))
      (hbound : st.registry.findByVar? varId = some id) :
      ClassCall st index line rest trailer varId (allMembers (readInline index written)) 0
  | block {varId : String} {body : List String}
      (hshape : classify st.scope line = some (.classBlock varId))
      (hcut : cutAtClosing? (startsWith "\t\x7d") rest
        = some (body, "\t\x7d" ++ trailer ++ ");")) :
      ClassCall st index line rest trailer varId (allMembers (readBlock (index + 1) body))
        (body.length + 1)

/-- The state in which a class has these members and this trailer as well. -/
def State.addToClass (st : State) (cleaner : Cleaner) (id : Nat) (members : List Member)
    (trailer : Trailer) : State :=
  { st with
    registry := st.registry.modify id fun c =>
      trailer.apply (addMembers st.ignore cleaner members c) }

section Calls

variable {st : State} {index read : Nat} {line text varId : String} {rest : List String}
  {members : Except Error (List Member)}

theorem closingTrailer?_append (text : String) :
    closingTrailer? ("\t\x7d" ++ text ++ ");") = Trailer.ofText? text := by
  have hbetween : between? "\t\x7d".toList ");".toList ("\t\x7d" ++ text ++ ");").toList
      = some text.toList := by
    rw [between?_eq_some_iff, String.toList_append, String.toList_append]
  rw [closingTrailer?, hbetween, Option.bind_some, String.ofList_toList]

/-- A change of a class cannot be read without its trailer. -/
theorem exists_error_of_classChange (members : List Member × Option Error) (failure : Error) :
    ∃ first, classChange members (.error failure) = .error first := by
  unfold classChange
  cases allMembers members with
  | error first => exact ⟨first, rfl⟩
  | ok members => exact ⟨failure, rfl⟩

/-- With its trailer it can be read if its members can. -/
theorem thenPerform_classChange {written : List Member × Option Error} {id : Nat}
    (hbound : st.registry.findByVar? varId = some id) (cleaner : Cleaner) (trailer : Trailer)
    (read : Nat) :
    thenPerform cleaner st (.ok (.bulk varId (classChange written (.ok trailer)), read))
      = (allMembers written).map fun added =>
          (st.addToClass cleaner id added trailer, read) := by
  unfold classChange
  cases hmembers : allMembers written with
  | error failure =>
      simp only [thenPerform, ok_bind, perform, onClass, hbound]
      rfl
  | ok members =>
      simp only [thenPerform, ok_bind, perform, onClass, hbound]
      rfl

/-- A call with a trailer that is not read fails. -/
theorem ClassCall.fails (h : ClassCall st index line rest text varId members read)
    (hnone : Trailer.ofText? text = none) (cleaner : Cleaner) :
    ∃ failure, step cleaner st index line rest = .error failure := by
  cases h with
  | @inline written id hshape hbound =>
      obtain ⟨failure, hchange⟩ :=
        exists_error_of_classChange (readInline index written) (.unrecognizedAt index line)
      refine ⟨failure, ?_⟩
      rw [step_eq, readAction, hshape]
      simp only [actionOf, hnone, partOf, hchange, thenPerform, ok_bind, perform, onClass, hbound]
      rfl
  | block hshape hcut =>
      rw [← closingTrailer?_append] at hnone
      exact ⟨_, step_unbound_of_malformed hshape hcut hnone cleaner index⟩

/-- A call with a trailer that is read adds its members and what the trailer says. -/
theorem ClassCall.step_eq_map (h : ClassCall st index line rest text varId members read)
    {trailer : Trailer} (htrailer : Trailer.ofText? text = some trailer) {id : Nat}
    (hbound : st.registry.findByVar? varId = some id) (cleaner : Cleaner) :
    step cleaner st index line rest
      = members.map fun added => (st.addToClass cleaner id added trailer, read) := by
  cases h with
  | inline hshape _ =>
      rw [step_eq, readAction, hshape, ← thenPerform_classChange hbound]
      simp only [actionOf, htrailer, partOf]
  | @block body hshape hcut =>
      have hclosed : cutAtClosing (startsWith "\t\x7d") "\\t\x7d" index rest = .ok (body, _) :=
        cutAtClosing_eq_ok_iff.mpr hcut
      rw [← closingTrailer?_append] at htrailer
      rw [step_eq, readAction, hshape, ← thenPerform_classChange hbound]
      simp only [actionOf, hclosed, ok_bind, htrailer, partOf]
      rfl

/-- **Trailers.** A trailer is read exactly in the four forms with any text without comma and space
for the base class, and these are the documented forms exactly on a trailer that is not misread. A
call with a trailer in none of the forms fails, and any other call on a class whose members can be
read adds them to the class and what the trailer says. -/
theorem Trailer.ofText?_forms (text : String) :
    (∀ trailer, ofText? text = some trailer ↔ acceptedForms.Reads text trailer) ∧
      ((∀ trailer, ofText? text = some trailer ↔ documentedForms.Reads text trailer) ↔
        ¬ Misread text) ∧
      ∀ (cleaner : Cleaner) (st : State) (index : Nat) (line : String) (rest : List String)
        (varId : String) (members : Except Error (List Member)) (read : Nat),
        ClassCall st index line rest text varId members read →
          ((∀ trailer, ¬ acceptedForms.Reads text trailer) →
            ∃ failure, step cleaner st index line rest = .error failure) ∧
          ∀ trailer id, acceptedForms.Reads text trailer →
            st.registry.findByVar? varId = some id →
              step cleaner st index line rest
                = members.map fun added =>
                    (st.addToClass cleaner id added trailer, read) := by
  refine ⟨fun trailer => ofText?_eq_some_iff, ?_, ?_⟩
  · simp only [ofText?_eq_some_iff]
    exact reads_accepted_iff_documented
  · intro cleaner st index line rest varId members read hcall
    refine ⟨fun hnone => hcall.fails (ofText?_eq_none_iff.mpr hnone) cleaner, ?_⟩
    intro trailer id hform hbound
    exact hcall.step_eq_map (ofText?_eq_some_iff.mpr hform) hbound cleaner

/-- A class whose constructor has been read. -/
def widgetState : State where
  registry := Registry.ofList [{ space := "Ns", name := "A", varId := some "$Ns_A" }]

/-- Two base classes are none of the forms; a base class and a list after a block are one. -/
theorem Trailer.ofText?_forms_of_two_calls :
    (∀ trailer, ¬ acceptedForms.Reads ", $A, $B" trailer) ∧
      (∃ failure, step {} widgetState 3 "\tss.initClass($Ns_A, $asm, \x7b\x7d, $A, $B);" []
        = .error failure) ∧
      acceptedForms.Reads ", $B, [$I, $J]" (.baseAndInterfaces "$B" ["$I", "$J"]) ∧
      step {} widgetState 3 "\tss.initClass($Ns_A, $asm, \x7b" ["\t\x7d, $B, [$I, $J]);"]
        = .ok
          ({ registry := Registry.ofList
              [{ space := "Ns", name := "A", varId := some "$Ns_A", baseClass := some "$B",
                 interfaces := ["$I", "$J"] }] },
            1) := by
  have hbound : widgetState.registry.findByVar? "$Ns_A" = some 0 := by decide
  obtain ⟨hreads, -, hcalls⟩ := ofText?_forms ", $A, $B"
  have hnone : ∀ trailer, ¬ acceptedForms.Reads ", $A, $B" trailer := by
    intro trailer hform
    have hread := (hreads trailer).mpr hform
    rw [show ofText? ", $A, $B" = none by decide] at hread
    cases hread
  have hinline : classify widgetState.scope "\tss.initClass($Ns_A, $asm, \x7b\x7d, $A, $B);"
      = some (.classInline "$Ns_A" "" ", $A, $B") := by decide +kernel
  have hfails := (hcalls {} widgetState 3 _ [] _ _ _ (.inline hinline hbound)).1 hnone
  obtain ⟨hreads', -, hcalls'⟩ := ofText?_forms ", $B, [$I, $J]"
  have hform := (hreads' (.baseAndInterfaces "$B" ["$I", "$J"])).mp (by decide)
  have hblock : classify widgetState.scope "\tss.initClass($Ns_A, $asm, \x7b"
      = some (.classBlock "$Ns_A") := by decide +kernel
  have hcut : cutAtClosing? (startsWith "\t\x7d") ["\t\x7d, $B, [$I, $J]);"]
      = some ([], "\t\x7d" ++ ", $B, [$I, $J]" ++ ");") := by decide
  have hadds := (hcalls' {} widgetState 3 _ _ _ _ _ (.block hblock hcut)).2 _ 0 hform hbound
  exact ⟨hnone, hfails, hform, hadds.trans (by decide)⟩

/-- A list of interfaces without the `null` before it is none of the documented forms, but is read
and becomes the base class. -/
theorem Trailer.ofText?_of_bare_list :
    (∀ trailer, ¬ documentedForms.Reads ", [$I]" trailer) ∧
      ofText? ", [$I]" = some (.base "[$I]") ∧
      step {} widgetState 3 "\tss.initClass($Ns_A, $asm, \x7b\x7d, [$I]);" []
        = .ok
          ({ registry := Registry.ofList
              [{ space := "Ns", name := "A", varId := some "$Ns_A", baseClass := some "[$I]" }] },
            0) := by
  refine ⟨?_, by decide, by decide +kernel⟩
  intro trailer hform
  have hcomma : ',' ∉ "[$I]".toList := by decide
  cases trailer with
  | empty =>
      have hsome : ", [$I]" ≠ "" := by decide
      exact hsome hform
  | base name =>
      obtain ⟨hname, heq⟩ := hform
      have hlist : ", " ++ "[$I]" = ", " ++ name := heq
      rw [← String.toList_inj, String.toList_append, String.toList_append,
        List.append_cancel_left_eq, String.toList_inj] at hlist
      subst hlist
      exact hname.bracket (.inl (by decide))
  | interfaces items =>
      obtain ⟨list, -, heq, -⟩ := hform
      exact withList_ne_base hcomma heq.symm
  | baseAndInterfaces name items =>
      obtain ⟨list, -, -, heq, -⟩ := hform
      exact withList_ne_base hcomma heq.symm

example : Trailer.ofText? ", null" = some (.base "null") := by decide

end Calls

end ClassRecovery.Dump
