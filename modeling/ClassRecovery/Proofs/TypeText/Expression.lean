import ClassRecovery.TypeText

/-!
# Type expressions

A type expression is a head, a head with type arguments in angle brackets, or a list type. `written`
is its text in the sources, and `emitted` the text of the expression in which every head is translated
by itself, whatever stands around it.

A rewriting of texts that passes over the marks between the heads, and makes the image of each head
of its text where such a mark or the end follows it, rewrites the text of an expression head by head
(`Expression.rewrite_render`).
-/

set_option autoImplicit false

namespace ClassRecovery.TypeText

open Text

/-! ## Expressions over heads of any kind -/

mutual

/-- A type expression. -/
inductive Expression (Head : Type)
  | plain (head : Head)
  | applied (head : Head) (arguments : Arguments Head)
  | array (element : Expression Head)

/-- The type arguments of a head, at least one. -/
inductive Arguments (Head : Type)
  | last (argument : Expression Head)
  | more (argument : Expression Head) (later : Arguments Head)

end

mutual

/-- The expression with every head replaced, by what may depend on whether the head has
arguments. -/
def Expression.mapHeads {α β : Type} (image : Bool → α → β) : Expression α → Expression β
  | .plain head => .plain (image false head)
  | .applied head arguments => .applied (image true head) (arguments.mapHeads image)
  | .array element => .array (element.mapHeads image)

/-- The arguments with every head replaced. -/
def Arguments.mapHeads {α β : Type} (image : Bool → α → β) : Arguments α → Arguments β
  | .last argument => .last (argument.mapHeads image)
  | .more argument later => .more (argument.mapHeads image) (later.mapHeads image)

end

mutual

/-- An expression of texts as one text. -/
def Expression.render : Expression (List Char) → List Char
  | .plain head => head
  | .applied head arguments => head ++ '<' :: (arguments.render ++ ['>'])
  | .array element => element.render ++ ['[', ']']

/-- Arguments as one text, with a comma and a space between them. -/
def Arguments.render : Arguments (List Char) → List Char
  | .last argument => argument.render
  | .more argument later => argument.render ++ ',' :: ' ' :: later.render

end

/-- Nothing follows, or a mark that can follow a whole expression. -/
def endsExpression (rest : List Char) : Bool :=
  rest.head?.all fun c => c == ',' || c == '>' || c == '['

/-- The rewriting passes over the marks of expressions, and makes the images of heads of their
texts. -/
structure RewritesHeads {Head : Type} (rewrite : List Char → List Char)
    (text image : Bool → Head → List Char) : Prop where
  mark : ∀ c ∈ ['<', '>', '[', ']', ',', ' '], ∀ rest, rewrite (c :: rest) = c :: rewrite rest
  plain : ∀ head rest, endsExpression rest = true →
    rewrite (text false head ++ rest) = image false head ++ rewrite rest
  applied : ∀ head rest,
    rewrite (text true head ++ '<' :: rest) = image true head ++ '<' :: rewrite rest

section Rewriting

variable {Head : Type} {rewrite : List Char → List Char} {text image : Bool → Head → List Char}

mutual

/-- A rewriting of heads is a rewriting of expressions. -/
theorem Expression.rewrite_render (h : RewritesHeads rewrite text image) :
    ∀ (t : Expression Head) (rest : List Char), endsExpression rest = true →
      rewrite ((t.mapHeads text).render ++ rest) = (t.mapHeads image).render ++ rewrite rest
  | .plain head, rest, hrest => h.plain head rest hrest
  | .applied head arguments, rest, hrest => by
      have harguments := Arguments.rewrite_render h arguments rest
      simp only [Expression.mapHeads, Expression.render, List.append_assoc, List.cons_append,
        List.nil_append]
      rw [h.applied, harguments]
  | .array element, rest, hrest => by
      have helement := Expression.rewrite_render h element ('[' :: ']' :: rest) rfl
      simp only [Expression.mapHeads, Expression.render, List.append_assoc, List.cons_append,
        List.nil_append]
      rw [helement, h.mark '[' (by simp), h.mark ']' (by simp)]

/-- Arguments are rewritten up to the bracket that closes them. -/
theorem Arguments.rewrite_render (h : RewritesHeads rewrite text image) :
    ∀ (arguments : Arguments Head) (rest : List Char),
      rewrite ((arguments.mapHeads text).render ++ '>' :: rest)
        = (arguments.mapHeads image).render ++ '>' :: rewrite rest
  | .last argument, rest => by
      have hargument := Expression.rewrite_render h argument ('>' :: rest) rfl
      simp only [Arguments.mapHeads, Arguments.render]
      rw [hargument, h.mark '>' (by simp)]
  | .more argument later, rest => by
      have hlater := Arguments.rewrite_render h later rest
      have hargument := Expression.rewrite_render h argument
        (',' :: ' ' :: ((later.mapHeads text).render ++ '>' :: rest)) rfl
      simp only [Arguments.mapHeads, Arguments.render, List.append_assoc, List.cons_append]
      rw [hargument, h.mark ',' (by simp), h.mark ' ' (by simp), hlater]

end

end Rewriting

/-! ## Heads of the sources and their translation -/

/-- A character of an identifier of the sources. -/
def isNameChar (c : Char) : Bool := c.isAlphanum || c == '_'

/-- An identifier of the sources: it is not empty and begins with no digit. -/
def isName (s : List Char) : Bool := s.head?.any (fun c => !c.isDigit) && s.all isNameChar

/-- The names of dictionaries without the qualifier. -/
def dictionaryHeads : List String := ["Dictionary", "JsDictionary"]

/-- The head of a type expression: an identifier that may be qualified with `ss.`, and that is the
name of a dictionary or has none in it. -/
structure Head where
  isQualified : Bool
  name : String
  isName : TypeText.isName name.toList = true
  dictionary : "Dictionary".toList <:+: name.toList → name ∈ dictionaryHeads

/-- The qualifier of the script library. -/
def qualifier : List Char := "ss.".toList

/-- The names that are emitted under another one. -/
def emittedNames : List (List String × String) :=
  [(["bool"], "boolean"),
   (["int", "float", "double", "long", "short", "byte", "uint", "Int32"], "number"),
   (["IList", "List", "IEnumerable", "ICollection"], "Array"),
   (["JsDate", "DateTime"], "Date"),
   (["Object", "dynamic"], "any"),
   (["jQueryObject"], "JQuery"),
   (["jQueryEvent"], "JQuery.Event"),
   (["jQueryEventHandler"], "JQuery.EventHandler"),
   (["Delegate"], "Action<void>")]

/-- The name that a name is emitted under. -/
def emittedName (name : String) : String :=
  ((emittedNames.find? fun entry => entry.1.contains name).map Prod.snd).getD name

/-- The names, other than those of dictionaries, that lose their qualifier. -/
def unqualifiedNames : List String :=
  ["IList", "List", "IEnumerable", "ICollection", "JsDate", "Int32"]

namespace Head

/-- The head as it stands in the sources. -/
def text (head : Head) : List Char :=
  (if head.isQualified then qualifier else []) ++ head.name.toList

/-- The head under the name that it is emitted under. -/
def renamed (head : Head) : List Char :=
  (if head.isQualified && !unqualifiedNames.contains head.name then qualifier else [])
    ++ (emittedName head.name).toList

/-- The emitted form of a head with or without arguments. A dictionary without arguments has them
in its emitted form. -/
def translated (hasArguments : Bool) (head : Head) : List Char :=
  if head.name ∈ dictionaryHeads then
    (if hasArguments then "Record" else "Record<string,any>").toList
  else head.renamed

end Head

/-- An expression as it stands in the sources. -/
def Expression.text (t : Expression Head) : List Char := (t.mapHeads fun _ => Head.text).render

/-- The text of the expression with all its heads translated. -/
def Expression.emitted (t : Expression Head) : List Char := (t.mapHeads Head.translated).render

/-- An expression behind leading keywords, and before the mark of an optional type. -/
def Expression.written (keywords : List String) (t : Expression Head) (optional : Bool) : String :=
  String.ofList (keywords.flatMap String.toList ++ t.text ++ if optional then ['?'] else [])

/-! ## The characters of an expression -/

section Characters

variable {Head : Type} {image : Bool → Head → List Char} {p : Char → Prop}

mutual

/-- The characters of an expression are those of its heads and the marks between them. -/
theorem Expression.forall_mem_render (hmark : ∀ c ∈ ['<', '>', '[', ']', ',', ' '], p c)
    (himage : ∀ hasArguments head, ∀ c ∈ image hasArguments head, p c) :
    ∀ t : Expression Head, ∀ c ∈ (t.mapHeads image).render, p c
  | .plain head => himage false head
  | .applied head arguments => by
      have harguments := Arguments.forall_mem_render hmark himage arguments
      simp only [Expression.mapHeads, Expression.render, List.forall_mem_append,
        List.forall_mem_cons]
      exact ⟨himage true head, hmark '<' (by simp), harguments, hmark '>' (by simp), by simp⟩
  | .array element => by
      have helement := Expression.forall_mem_render hmark himage element
      simp only [Expression.mapHeads, Expression.render, List.forall_mem_append,
        List.forall_mem_cons]
      exact ⟨helement, hmark '[' (by simp), hmark ']' (by simp), by simp⟩

theorem Arguments.forall_mem_render (hmark : ∀ c ∈ ['<', '>', '[', ']', ',', ' '], p c)
    (himage : ∀ hasArguments head, ∀ c ∈ image hasArguments head, p c) :
    ∀ arguments : Arguments Head, ∀ c ∈ (arguments.mapHeads image).render, p c
  | .last argument => Expression.forall_mem_render hmark himage argument
  | .more argument later => by
      have hargument := Expression.forall_mem_render hmark himage argument
      have hlater := Arguments.forall_mem_render hmark himage later
      simp only [Arguments.mapHeads, Arguments.render, List.forall_mem_append,
        List.forall_mem_cons]
      exact ⟨hargument, hmark ',' (by simp), hmark ' ' (by simp), hlater⟩

end

/-- An expression begins with one of its heads, which a bracket follows if anything does. -/
theorem Expression.exists_head_append (image : Bool → Head → List Char) :
    ∀ t : Expression Head, ∃ hasArguments head rest,
      (t.mapHeads image).render = image hasArguments head ++ rest ∧
        ∀ c, rest.head? = some c → c = '<' ∨ c = '['
  | .plain head => ⟨false, head, [], (List.append_nil _).symm, by simp⟩
  | .applied head arguments =>
      ⟨true, head, '<' :: ((arguments.mapHeads image).render ++ ['>']), rfl, by simp⟩
  | .array element => by
      obtain ⟨hasArguments, head, rest, helement, hrest⟩ :=
        Expression.exists_head_append image element
      refine ⟨hasArguments, head, rest ++ ['[', ']'], ?_, ?_⟩
      · simp only [Expression.mapHeads, Expression.render, helement, List.append_assoc]
      · cases rest with
        | nil => simp
        | cons d rest => exact hrest

end Characters

end ClassRecovery.TypeText
