import ClassRecovery.Json.Decode

/-!
# Decoding what has been encoded

A record is encoded as an object with the fields that are there, in order, and decoding takes each
field by its name again (`record?_present`). The other encodings are those of lists and of numbers.
-/

set_option autoImplicit false

namespace ClassRecovery.Json

variable {α : Type} {encode : α → Json} {decode : Json → Option α}

/-! ## Records -/

/-- The fields that are there. -/
def present (fields : List (String × Option Json)) : List (String × Json) :=
  fields.filterMap fun (key, value) => value.map (key, ·)

theorem present_nil : present [] = [] := rfl

theorem present_cons_some (key : String) (value : Json) (rest : List (String × Option Json)) :
    present ((key, some value) :: rest) = (key, value) :: present rest := rfl

theorem present_cons_map (key : String) (encode : α → Json) (value : Option α)
    (rest : List (String × Option Json)) :
    present ((key, value.map encode) :: rest)
      = optionalField key encode value ++ present rest := by
  cases value <;> rfl

theorem mem_of_mem_present {fields : List (String × Option Json)} {field : String × Json}
    (h : field ∈ present fields) : field.1 ∈ fields.map Prod.fst := by
  obtain ⟨⟨key, value⟩, hmem, hvalue⟩ := List.mem_filterMap.mp h
  obtain ⟨given, -, rfl⟩ := Option.map_eq_some_iff.mp hvalue
  exact List.mem_map.mpr ⟨_, hmem, rfl⟩

/-- A field of a record is given at most once, by its own name. -/
theorem given_present {fields : List (String × Option Json)} {key : String} {value : Option Json}
    (hnodup : (fields.map Prod.fst).Nodup) (hmem : (key, value) ∈ fields) :
    ((present fields).filter fun field => field.1 == key).map (·.2) = value.toList := by
  induction fields with
  | nil => cases hmem
  | cons first rest ih =>
      obtain ⟨other, given⟩ := first
      rw [List.map_cons, List.nodup_cons] at hnodup
      obtain ⟨hother, hrest⟩ := hnodup
      have hcons : present ((other, given) :: rest)
          = (given.map (other, ·)).toList ++ present rest := by
        cases given <;> rfl
      rw [hcons, List.filter_append, List.map_append]
      rcases List.mem_cons.mp hmem with heq | hmem
      · cases heq
        -- no later field has the name
        have hnone : (present rest).filter (fun field => field.1 == key) = [] := by
          refine List.filter_eq_nil_iff.mpr fun field hfield heq => hother ?_
          rw [← beq_iff_eq.mp heq]
          exact mem_of_mem_present hfield
        rw [hnone]
        cases value <;> simp
      · have hne : other ≠ key := by
          rintro rfl
          exact hother (List.mem_map.mpr ⟨_, hmem, rfl⟩)
        rw [ih hrest hmem]
        cases given <;> simp [hne]

/-- A record whose names are distinct has the fields that it has been given. -/
theorem record?_present {names : List String} {fields : List (String × Option Json)}
    (hnames : fields.map Prod.fst = names) (hnodup : names.Nodup) :
    record? names (.object (present fields)) = some (fields.map Prod.snd) := by
  subst hnames
  have hgiven : ∀ field ∈ fields,
      ((present fields).filter fun other => other.1 == field.1).map (·.2) = field.2.toList :=
    fun field hmem => given_present hnodup hmem
  have honce : ((fields.map Prod.fst).any fun key =>
      1 < (((present fields).filter fun other => other.1 == key).map (·.2)).length) = false := by
    rw [List.any_map, List.any_eq_false]
    intro field hmem
    simp only [Function.comp_apply, hgiven field hmem, decide_eq_true_eq]
    cases field.2 <;> simp
  unfold record?
  dsimp only
  rw [honce, if_neg Bool.false_ne_true, List.map_map]
  refine congrArg some (List.map_congr_left fun field hmem => ?_)
  rw [Function.comp_apply, hgiven field hmem]
  cases field.2 <;> rfl

/-! ## Fields -/

/-- A field that decodes comes before the others. -/
theorem bind_of_decoded {β : Type} {x : Option α} {f : α → Option β} {a : α} {b : β}
    (hx : x = some a) (h : f a = some b) : (x >>= f) = some b := by
  rw [hx]
  exact h

theorem optional_map (hdecode : ∀ a, decode (encode a) = some a) (hnull : ∀ a, encode a ≠ .null)
    (value : Option α) : optional decode (value.map encode) = some value := by
  cases value with
  | none => rfl
  | some a =>
      rw [Option.map_some, optional]
      · rw [hdecode]
        rfl
      · exact hnull a

theorem optional_string (value : Option String) :
    optional asString? (value.map .string) = some value := by
  cases value <;> rfl

theorem optional_bool (value : Option Bool) :
    optional asBool? (value.map .bool) = some value := by
  cases value <;> rfl

/-! ## Lists and numbers -/

theorem asArray?_map (hdecode : ∀ a, decode (encode a) = some a) (items : List α) :
    asArray? decode (.array (items.map encode)) = some items := by
  show (items.map encode).mapM decode = some items
  induction items with
  | nil => rfl
  | cons item rest ih =>
      rw [List.map_cons, List.mapM_cons, hdecode, ih]
      rfl

theorem asArray?_strings (texts : List String) :
    asArray? asString? (strings texts) = some texts := by
  have hdecode : ∀ text, asString? (.string text) = some text := fun _ => rfl
  exact asArray?_map hdecode texts

theorem optional_strings (value : Option (List String)) :
    optional (asArray? asString?) (value.map strings) = some value :=
  optional_map asArray?_strings (fun _ h => by cases h) value

theorem asNat?_ofNat (n : Nat) : asNat? (ofNat n) = some n := by
  have hdigits : (toString n).toList = Nat.toDigits 10 n := Nat.toList_repr
  have hall : (Nat.toDigits 10 n).all Char.isDigit = true := by
    rw [List.all_eq_true]
    exact fun c hc => Nat.isDigit_of_mem_toDigits (by decide) (by decide) hc
  show (if (toString n).toList.all Char.isDigit then _ else _) = _
  rw [hdigits, if_pos hall, ← Nat.ofDigitChars_eq_foldl, Nat.ofDigitChars_ten_toDigits]

theorem asUInt32?_ofNat (n : UInt32) : asUInt32? (ofNat n.toNat) = some n := by
  unfold asUInt32?
  rw [asNat?_ofNat, Option.bind_some, if_pos n.toNat_lt_size]
  exact congrArg some UInt32.ofNat_toNat

end ClassRecovery.Json
