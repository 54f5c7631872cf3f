import ClassRecovery.Dump.LineShape
import ClassRecovery.Text.Cut
import ClassRecovery.Text.Word

/-!
# Recognizing top-level lines

One recognizer per shape; `classify` asks them in a fixed order and takes the first answer, so a
line that fits two shapes has the earlier one. Where a separator may occur more than once, a
line is cut at the last one. Free parts of a line never contain a line feed.
-/

set_option autoImplicit false

namespace ClassRecovery.Dump

open Text

/-! ## Lines outside classes -/

/-- Lines that say nothing about any class. -/
def boilerplateLines : List String :=
  ["(function() \x7b", "\uFEFF(function() \x7b", "\t'use strict';", "\x7d)();",
   "\tvar $asm = \x7b\x7d;"]

/-- A line of the module wrapper, or a metadata call. -/
def boilerplate? (line : List Char) : Option LineShape :=
  if boilerplateLines.any (·.toList == line) || "\tss.setMetadata(".toList.isPrefixOf line then
    some .boilerplate
  else none

/-- The part of a global statement between `global.` and the semicolon. -/
def globalStatement? (line : List Char) : Option (List Char) :=
  (between? "\tglobal.".toList [';'] line).filter onOneLine

/-- An assignment to a global, cut at its last ` = `. -/
def globalAssignment? (line : List Char) : Option LineShape := do
  let (target, value) ← splitLast? " = ".toList (← globalStatement? line)
  some (.globalAssignment (String.ofList target) (String.ofList value))

/-- Any other global statement. -/
def globalDirective? (line : List Char) : Option LineShape :=
  (globalStatement? line).map fun _ => .globalDirective

/-- What follows the link `.$ctor1.prototype = ` of the first secondary constructor. -/
def afterFirstLink? (s : List Char) : Option (List Char) :=
  ".$ctor1.prototype = ".toList.isPrefixOf? s

/-- What follows the link of a secondary constructor with a number of one digit. -/
def afterLink? (s : List Char) : Option (List Char) :=
  match ".$ctor".toList.isPrefixOf? s with
  | some (digit :: rest) =>
    if isDecimalDigit digit then ".prototype = ".toList.isPrefixOf? rest else none
  | _ => none

/-- The prototype of the first secondary constructor is that of its class. -/
def isFirstPrototype (body : List Char) : Bool :=
  match splitLastBy? afterFirstLink? body with
  | some (constructed, source) => constructed == source
  | none => false

/-- The prototype of a later secondary constructor is that of the one before it. -/
def isChainedPrototype (body : List Char) : Bool :=
  match splitLastBy? afterLink? body with
  | some (links, _) =>
    match splitLastBy? afterLink? links with
    | some (constructed, source) => constructed == source
    | none => false
  | none => false

/-- The prototype of a secondary constructor. -/
def constructorPrototype? (line : List Char) : Option LineShape :=
  match (between? ['\t'] ".prototype;".toList line).filter onOneLine with
  | some body =>
    if isFirstPrototype body || isChainedPrototype body then some .constructorPrototype else none
  | none => none

/-- The opening line of a block on `global.` or `$.fn.`. -/
def globalBlock? (line : List Char) : Option LineShape :=
  let opens (front : String) := (between? front.toList ['\x7b'] line).any onOneLine
  if opens "\tglobal." || opens "\t$.fn." then some .globalBlock else none

/-- The call that names the assembly. -/
def assembly? (line : List Char) : Option LineShape :=
  ((between? "\tss.initAssembly($asm, '".toList "');".toList line).filter onOneLine).map
    fun name => .assembly (String.ofList name)

/-- A tab and eighty slashes. -/
def separatorLine : List Char := '\t' :: List.replicate 80 '/'

/-- The rule between two classes. -/
def separator? (line : List Char) : Option LineShape :=
  if line == separatorLine then some .separator else none

/-- The comment that names the next class. -/
def className? (line : List Char) : Option LineShape :=
  (("\t// ".toList.isPrefixOf? line).filter onOneLine).map
    fun qualified => .className (String.ofList qualified)

/-! ## Lines of a class -/

/-- The opening line of a constructor, where a class has been named. -/
def constructor? (scope : Scope) (line : List Char) : Option LineShape :=
  if scope.hasClass then do
    let body ← (between? "\tvar ".toList ") \x7b".toList line).filter onOneLine
    let (varId, params) ← splitLast? " = function(".toList body
    some (.constructor (String.ofList varId) (String.ofList params))
  else none

/-- What follows the variable of the class and a dot. -/
def staticMember? (scope : Scope) (line : List Char) : Option (List Char) := do
  let varId ← scope.varId
  ('\t' :: varId.toList ++ ['.']).isPrefixOf? line

/-- The identifier at the head of a text and what follows it. -/
def identifier? (s : List Char) : Option (List Char × List Char) :=
  let name := s.takeWhile isIdent
  if name.isEmpty then none else some (name, s.dropWhile isIdent)

/-- The opening line of a static method. -/
def staticMethod? (scope : Scope) (line : List Char) : Option LineShape := do
  let (member, rest) ← identifier? (← staticMember? scope line)
  let params ← (between? " = function(".toList ") \x7b".toList rest).filter onOneLine
  some (.staticMethod (String.ofList member) (String.ofList params))

/-- A static property with its value. -/
def staticProperty? (scope : Scope) (line : List Char) : Option LineShape := do
  let (member, rest) ← identifier? (← staticMember? scope line)
  let value ← (between? " = ".toList [';'] rest).filter onOneLine
  some (.staticProperty (String.ofList member) (String.ofList value))

/-! ## Bulk calls -/

/-- What stands between the variable and the member list of a bulk call. -/
def memberListMark : List Char := ", $asm, \x7b".toList

/-- The opening line of a member block. -/
def classBlock? (line : List Char) : Option LineShape :=
  ((between? "\tss.initClass(".toList memberListMark line).filter onOneLine).map
    fun varId => .classBlock (String.ofList varId)

/-- Variable, members and trailer of a bulk call on one line. The member list ends at the last
closing brace and begins after the last mark before it. -/
def bulkCall? (front : String) (line : List Char) :
    Option (List Char × List Char × List Char) := do
  let body ← (between? front.toList ");".toList line).filter onOneLine
  let (call, trailer) ← splitLast? ['\x7d'] body
  let (varId, members) ← splitLast? memberListMark call
  some (varId, members, trailer)

/-- A member list on one line. -/
def classInline? (line : List Char) : Option LineShape :=
  (bulkCall? "\tss.initClass(" line).map fun (varId, members, trailer) =>
    .classInline (String.ofList varId) (String.ofList members) (String.ofList trailer)

/-- A member list of an interface. -/
def interfaceInline? (line : List Char) : Option LineShape :=
  (bulkCall? "\tss.initInterface(" line).map fun (varId, members, trailer) =>
    .interfaceInline (String.ofList varId) (String.ofList members) (String.ofList trailer)

/-- The value of a decimal numeral. -/
def decimalValue (digits : List Char) : Nat :=
  digits.foldl (fun value digit => 10 * value + (digit.toNat - '0'.toNat)) 0

/-- A decimal numeral without leading zeros of a positive number of 32 bits. -/
def positive32? (s : List Char) : Option UInt32 :=
  let value := decimalValue s
  if s.all Char.isDigit && s.head?.any (· != '0') && value < UInt32.size then some value.toUInt32
  else none

/-- The number of type parameters of a generic class or interface. -/
def genericArity? (line : List Char) : Option LineShape := do
  let body ←
    ((between? "\tss.initGenericClass(".toList ");".toList line).or
      (between? "\tss.initGenericInterface(".toList ");".toList line)).filter onOneLine
  let (varId, numeral) ← splitLast? ", $asm, ".toList body
  let arity ← positive32? numeral
  some (.genericArity (String.ofList varId) arity)

/-- The values of an enumeration, with or without the mark of a flag set. -/
def enumInline? (line : List Char) : Option LineShape := do
  let body ← (between? "\tss.initEnum(".toList ");".toList line).filter onOneLine
  let (call, flags) ←
    ((['\x7d'].isSuffixOf? body).map fun call => (call, false)).or
      (("\x7d, true".toList.isSuffixOf? body).map fun call => (call, true))
  let (varId, members) ← splitLast? memberListMark call
  some (.enumInline (String.ofList varId) (String.ofList members) flags)

/-- The opening line of an initializer block. -/
def initializerBlock? (line : List Char) : Option LineShape :=
  if line == "\t(function() \x7b".toList then some .initializerBlock else none

/-! ## Classification -/

/-- The recognizers in the order they are asked. -/
def recognizers (scope : Scope) : List (List Char → Option LineShape) :=
  [boilerplate?, globalAssignment?, globalDirective?, constructorPrototype?, globalBlock?,
   assembly?, separator?, className?, constructor? scope, staticMethod? scope,
   staticProperty? scope, classBlock?, classInline?, interfaceInline?, genericArity?,
   enumInline?, initializerBlock?]

/-- The shape of a top-level line; `none` if it has none. -/
def classify (scope : Scope) (line : String) : Option LineShape :=
  (recognizers scope).findSome? fun recognize => recognize line.toList

end ClassRecovery.Dump
