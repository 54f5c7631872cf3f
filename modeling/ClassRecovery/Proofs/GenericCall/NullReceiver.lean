import ClassRecovery.Proofs.Dump.MethodBlock
import ClassRecovery.Proofs.GenericCall.Completeness
import ClassRecovery.Proofs.Text.Blank
import ClassRecovery.Proofs.TypeText.Translation

/-!
# Generic calls on a null receiver

In `f(T).call(null, a, b)` the first argument is the receiver, which a direct call `f<T>(a, b)` does
not pass. The receiver is dropped together with the separator behind it; so where no argument follows
it stays, and the explicit call has the argument `null` (`explicit_text`).

Only one head is in such a call: a head has two opening parentheses, and there are no more.
-/

set_option autoImplicit false

namespace ClassRecovery.GenericCall

open Text

/-! ## The only head of a text -/

section OneHead

variable {before : Option Char} {head : Head} {rest s : List Char}

/-- The head of a call opens two parentheses. -/
theorem Head.Begins.count_opening (h : head.Begins before) : head.opening.count '(' = 2 := by
  have hname : head.name.count '(' = 0 :=
    List.count_eq_zero.mpr (notMem_of_plain rfl h.isParen_name)
  have htype : head.type.count '(' = 0 :=
    List.count_eq_zero.mpr (notMem_of_plain rfl h.type_plain)
  have hcall : (").call(".toList).count '(' = 1 := by decide
  rw [Head.opening, List.count_append, List.count_cons_self, List.count_append, hname, htype, hcall]

theorem not_hasCallAfter_of_notMem (h : '(' ∉ s) : ¬ HasCallAfter before s := by
  rintro ⟨front, head, rfl, hbegins⟩
  have hcount := List.count_eq_zero.mpr h
  rw [List.count_append, List.count_append, hbegins.count_opening] at hcount
  omega

/-- What stands behind the last occurrence of a character is determined. -/
theorem eq_of_last {c : Char} {left left' right right' : List Char} (hright : c ∉ right)
    (hright' : c ∉ right') (h : left ++ [c] ++ right = left' ++ [c] ++ right') :
    right = right' := by
  have hcut (front back : List Char) (hback : c ∉ back) :
      splitLast? [c] (front ++ [c] ++ back) = some (front, back) :=
    (splitLast?_eq_some_iff List.not_mem_nil).mpr
      ⟨List.append_assoc _ _ _, fun hwithin => hback (hwithin.subset List.mem_cons_self)⟩
  have hsame := hcut left right hright
  rw [h, hcut left' right' hright', Option.some.injEq, Prod.mk.injEq] at hsame
  exact hsame.2.symm

/-- If no parenthesis opens behind a head, then every head of the text is followed by the same. -/
theorem rest_eq_of_notMem {head' : Head} {before' : Option Char} {front : List Char}
    (hbegins : head.Begins before) (hbegins' : head'.Begins before') (hrest : '(' ∉ head.rest)
    (h : head.opening ++ head.rest = front ++ (head'.opening ++ head'.rest)) :
    head'.rest = head.rest := by
  have hcount := congrArg (List.count '(') h
  rw [List.count_append, List.count_append, List.count_append, hbegins.count_opening,
    hbegins'.count_opening, List.count_eq_zero.mpr hrest] at hcount
  have hrest' : '(' ∉ head'.rest := List.count_eq_zero.mp (by omega)
  rw [opening_concat, opening_concat, ← List.append_assoc, ← List.append_assoc front] at h
  exact (eq_of_last hrest hrest' h).symm

/-- A receiver is dropped with the separator behind it. -/
theorem substitute_nullReceiverRule_null (hbegins : head.Begins none) (hrest : '(' ∉ rest)
    (hblank : rest.head?.any isBlank = false) :
    substitute nullReceiverRule (head.opening ++ "null, ".toList ++ rest) = head.image ++ rest := by
  have hnull : "null, ".toList = "null,".toList ++ [' '] := by decide
  have hspace : isBlank ' ' = true := by decide
  have hrest' : (' ' :: rest).dropWhile isBlank = rest := by
    rw [List.dropWhile_cons_of_pos hspace, dropWhile_isBlank hblank]
  have hmatch : nullReceiverRule none (head.opening ++ "null, ".toList ++ rest)
      = some ((head.opening ++ "null, ".toList).length, head.image) := by
    refine nullReceiverRule_eq_some_iff.mpr
      ⟨_, ' ' :: rest, hbegins.withRest ("null,".toList ++ ' ' :: rest), ?_, rfl, hspace, ?_⟩
    · rw [hnull, List.append_assoc, List.append_assoc]
      rfl
    · rw [hrest', length_append_sub]
      rfl
  rw [substitute, substituteFrom_append (List.append_ne_nil_of_left_ne_nil (opening_ne_nil head) _)
    hmatch, substituteFrom_nullReceiverRule (not_hasCallAfter_of_notMem hrest)]

/-- A receiver without a separator behind it stays. -/
theorem substitute_nullReceiverRule_other (hbegins : head.Begins none) (hrest : '(' ∉ head.rest)
    (hother : ¬ "null,".toList <+: head.rest) :
    substitute nullReceiverRule (head.opening ++ head.rest) = head.opening ++ head.rest := by
  refine (substitute_rewritten nullReceiverRule_takesSome _).eq_self fun front back hs => ?_
  by_contra hsome
  obtain ⟨found, hfound⟩ := Option.ne_none_iff_exists'.mp hsome
  obtain ⟨head', arguments, hbegins', hback, hnull, -, -⟩ :=
    nullReceiverRule_eq_some_iff.mp hfound
  rw [hback, ← hnull] at hs
  rw [← rest_eq_of_notMem hbegins hbegins' hrest hs, hnull] at hother
  exact hother (List.prefix_append _ _)

/-- The last head of a text is replaced by its image. -/
theorem substitute_receiverRule (hbegins : head.Begins none) (hrest : '(' ∉ head.rest) :
    substitute receiverRule (head.opening ++ head.rest) = head.image ++ head.rest := by
  have hmatch : receiverRule none (head.opening ++ head.rest)
      = some (head.opening.length, head.image) :=
    receiverRule_eq_some_iff.mpr ⟨head, hbegins, rfl, rfl⟩
  rw [substitute, substituteFrom_append (opening_ne_nil head) hmatch,
    substituteFrom_receiverRule (not_hasCallAfter_of_notMem hrest)]

/-- A call whose receiver is dropped is explicit after the first pass. -/
theorem explicitChars_null (hbegins : head.Begins none) (hrest : '(' ∉ rest)
    (hblank : rest.head?.any isBlank = false) :
    explicitChars (head.opening ++ "null, ".toList ++ rest) = head.image ++ rest := by
  have hnone : ¬ HasCall (head.image ++ rest) := fun hcall =>
    not_hasCallAfter_of_notMem hrest (hasCallAfter_of_image hbegins hcall)
  rw [explicitChars, substitute_nullReceiverRule_null hbegins hrest hblank, substitute,
    substituteFrom_receiverRule hnone]

/-- Any other call is left to the second pass, which keeps what follows the head. -/
theorem explicitChars_other (hbegins : head.Begins none) (hrest : '(' ∉ head.rest)
    (hother : ¬ "null,".toList <+: head.rest) :
    explicitChars (head.opening ++ head.rest) = head.image ++ head.rest := by
  rw [explicitChars, substitute_nullReceiverRule_other hbegins hrest hother,
    substitute_receiverRule hbegins hrest]

end OneHead

/-! ## Arguments -/

/-- An argument of a call is not empty, holds neither a parenthesis nor the separator of arguments,
and does not begin with white space. -/
structure IsArgument (argument : String) : Prop where
  ne_nil : argument.toList ≠ []
  isParen_of_mem : ∀ c ∈ argument.toList, isParen c = false
  head?_isBlank : argument.toList.head?.any isBlank = false
  single : ¬ ", ".toList <:+: argument.toList

theorem isArgument_null : IsArgument "null" :=
  ⟨by decide, isParen_of_any (by decide), by decide, by decide⟩

/-- Arguments with the separator between them. -/
def argumentList (arguments : List String) : String := ", ".intercalate arguments

/-- In a list of arguments no parenthesis opens. -/
theorem notMem_argumentList {arguments : List String} (h : ∀ a ∈ arguments, IsArgument a) :
    '(' ∉ (argumentList arguments).toList ++ [')'] := by
  have hlist : '(' ∉ (argumentList arguments).toList :=
    Dump.notMem_intercalate (by decide) fun a ha => notMem_of_plain rfl (h a ha).isParen_of_mem
  simpa using hlist

/-- A list of arguments does not begin with white space. -/
theorem head?_argumentList {arguments : List String} (h : ∀ a ∈ arguments, IsArgument a)
    (hne : arguments ≠ []) :
    ((argumentList arguments).toList ++ [')']).head?.any isBlank = false := by
  obtain ⟨first, others, rfl⟩ := List.exists_cons_of_ne_nil hne
  have hfirst : IsArgument first := h first List.mem_cons_self
  have hbegins : first.toList <+: (argumentList (first :: others)).toList := by
    rcases eq_or_ne others [] with rfl | hothers
    · rw [argumentList, String.intercalate_singleton]
    · rw [argumentList, String.intercalate_cons_of_ne_nil hothers, String.toList_append,
        String.toList_append, List.append_assoc]
      exact List.prefix_append _ _
  obtain ⟨more, hmore⟩ := hbegins
  rw [← hmore, List.append_assoc, List.head?_append_of_ne_nil _ hfirst.ne_nil]
  exact hfirst.head?_isBlank

/-- The arguments can be counted in their list. -/
theorem splitItems_argumentList {arguments : List String} (h : ∀ a ∈ arguments, IsArgument a) :
    Dump.splitItems (argumentList arguments).toList = arguments :=
  Dump.splitItems_intercalate fun a ha => ⟨(h a ha).ne_nil, (h a ha).single⟩

/-! ## Calls on a null receiver -/

/-- A generic call on a `null` receiver, with its arguments. -/
structure NullCall where
  function : String
  type : String
  arguments : List String
  function_ne_nil : function.toList ≠ []
  isNameChar_of_mem : ∀ c ∈ function.toList, TypeText.isNameChar c = true
  type_ne_nil : type.toList ≠ []
  isParen_of_mem : ∀ c ∈ type.toList, isParen c = false
  isArgument : ∀ a ∈ arguments, IsArgument a

namespace NullCall

variable (call : NullCall)

/-- The call as the script has it: the receiver goes before the arguments. -/
def text : String :=
  call.function ++ "(" ++ call.type ++ ").call(" ++ argumentList ("null" :: call.arguments) ++ ")"

/-- The call of the function with an explicit type. -/
def direct (passed : List String) : String :=
  call.function ++ "<" ++ TypeText.normalize call.type ++ ">(" ++ argumentList passed ++ ")"

/-- What the explicit call passes: the arguments, but the receiver if there are none. -/
def passed : List String := if call.arguments = [] then ["null"] else call.arguments

theorem isArgument_of_mem_passed : ∀ a ∈ call.passed, IsArgument a := by
  unfold passed
  split
  · exact List.forall_mem_singleton.mpr isArgument_null
  · exact call.isArgument

/-- The head of the call, with what follows it. -/
def head (rest : List Char) : Head := ⟨call.function.toList, call.type.toList, rest⟩

theorem begins (rest : List Char) : (call.head rest).Begins none where
  boundary := by
    obtain ⟨c, name, hname⟩ := List.exists_cons_of_ne_nil call.function_ne_nil
    have hword : isWord c = true := TypeText.isWord_of_isNameChar
      (call.isNameChar_of_mem c (hname ▸ List.mem_cons_self))
    simp [head, hname, isBoundary, hword]
  name_ne_nil := call.function_ne_nil
  name_ident := fun c hc => by
    have hname := call.isNameChar_of_mem c hc
    rw [TypeText.isNameChar, Bool.or_eq_true] at hname
    rcases hname with hname | hname <;> simp [isIdent, hname]
  type_ne_nil := call.type_ne_nil
  type_plain := call.isParen_of_mem

theorem toList_text : call.text.toList = (call.head []).opening
    ++ ((argumentList ("null" :: call.arguments)).toList ++ [')']) := by
  simp [text, head, Head.opening]

theorem toList_direct (passed : List String) : (call.direct passed).toList = (call.head []).image
    ++ ((argumentList passed).toList ++ [')']) := by
  simp [direct, head, Head.image, TypeText.normalize]

/-- The receiver is dropped where an argument follows it, and it is the argument where none does. -/
theorem explicit_text : explicit call.text = call.direct call.passed := by
  rw [← String.toList_inj, explicit, String.toList_ofList, toList_text, toList_direct, passed]
  by_cases hnone : call.arguments = []
  · have hnull : ¬ "null,".toList <+: (argumentList ["null"]).toList ++ [')'] := by decide
    rw [if_pos hnone, hnone]
    exact explicitChars_other (call.begins _)
      (notMem_argumentList (List.forall_mem_singleton.mpr isArgument_null)) hnull
  · have hlist : (argumentList ("null" :: call.arguments)).toList
        = "null, ".toList ++ (argumentList call.arguments).toList := by
      rw [argumentList, String.intercalate_cons_of_ne_nil hnone, String.toList_append]
      rfl
    rw [if_neg hnone, hlist, List.append_assoc, ← List.append_assoc (call.head []).opening]
    exact explicitChars_null (call.begins []) (notMem_argumentList call.isArgument)
      (head?_argumentList call.isArgument hnone)

theorem direct_null_ne : call.direct ["null"] ≠ call.direct [] := by
  intro hsame
  have hlist : (argumentList ["null"]).toList ++ [')'] = (argumentList []).toList ++ [')'] := by
    refine (List.append_right_inj (call.head []).image).mp ?_
    rw [← toList_direct, ← toList_direct, hsame]
  exact absurd hlist (by decide)

/-- A generic call on a `null` receiver becomes the direct call with the same arguments exactly when
it has arguments. Otherwise the receiver becomes the argument: the number of arguments is that of
`passed`. -/
theorem explicit_text_iff :
    (explicit call.text = call.direct call.arguments ↔ call.arguments ≠ []) ∧
      explicit call.text = call.direct call.passed ∧
        Dump.splitItems (argumentList call.passed).toList = call.passed := by
  refine ⟨?_, call.explicit_text, splitItems_argumentList call.isArgument_of_mem_passed⟩
  rw [explicit_text, passed]
  by_cases hnone : call.arguments = []
  · rw [if_pos hnone, hnone]
    exact iff_of_false call.direct_null_ne (not_not_intro rfl)
  · rw [if_neg hnone]
    exact iff_of_true rfl hnone

/-- Without arguments the receiver is passed on. -/
theorem explicit_text_ne_of_cast : ∃ call : NullCall, call.text = "cast(ss.Int32).call(null)" ∧
    explicit call.text = "cast<number>(null)" ∧
      explicit call.text ≠ call.direct call.arguments := by
  let call : NullCall :=
    { function := "cast", type := "ss.Int32", arguments := [],
      function_ne_nil := by decide, isNameChar_of_mem := List.all_eq_true.mp (by decide),
      type_ne_nil := by decide, isParen_of_mem := isParen_of_any (by decide),
      isArgument := fun _ ha => absurd ha List.not_mem_nil }
  have hexplicit : explicit call.text = "cast<number>(null)" := by decide +kernel
  have hdirect : call.direct call.arguments = "cast<number>()" := by decide +kernel
  refine ⟨call, by decide, hexplicit, ?_⟩
  rw [hexplicit, hdirect]
  decide

end NullCall

end ClassRecovery.GenericCall
