import ClassRecovery.Dump.Cleaner
import ClassRecovery.Dump.Function
import ClassRecovery.Dump.IgnoreList
import ClassRecovery.Dump.Terminator
import ClassRecovery.Text.Blank

/-!
# Member lists

The members of a class stand in a block, one line each but for methods, or in a list on one
line. A method goes from its header to the closing brace at the same indentation; any other
member is a name and a value, and the value goes without one comma at its end.

Reading a list does not depend on the class nor on the ignore list: it gives the members up to
the first line that is none, with the reason why it is none. Which members enter the class is
decided afterwards.
-/

set_option autoImplicit false

namespace ClassRecovery.Dump

open Text

/-! ## Members -/

/-- A member of a list. -/
inductive Member
  | method (name : String) (parts : FunctionParts)
  | property (name value : String)
  deriving DecidableEq, Repr

/-- The name of a member. -/
def Member.name : Member → String
  | .method name _ => name
  | .property name _ => name

/-- The name and parameters of a method, if the text is the header of one. -/
def methodHeader? (member : List Char) : Option (String × String) := do
  let header ← (") \x7b".toList.isSuffixOf? member).filter onOneLine
  let (name, params) ← splitLast? ": function(".toList header
  some (String.ofList name, String.ofList params)

/-- The value of a property without the comma at its end: it is not empty and ends with no other
comma, and no line feed stands before its last character. -/
def propertyValue? (text : List Char) : Option (List Char) :=
  let value := ([','].isSuffixOf? text).getD text
  if value.getLast?.any (· != ',') && onOneLine value.dropLast then some value else none

/-- The name and value of a property, cut at the last `: ` with a value behind it. -/
def propertyLine? (member : List Char) : Option (String × String) := do
  let (name, text) ←
    splitLastBy?
      (fun rest => (": ".toList.isPrefixOf? rest).filter fun text => (propertyValue? text).isSome)
      member
  let value ← propertyValue? text
  if onOneLine name then some (String.ofList name, String.ofList value) else none

/-! ## Reading a list -/

/-- Where a member list stands in the dump. -/
inductive MemberSource
  /-- The lines of a block; the first one is at this place. -/
  | block (firstLine : Nat)
  /-- The pieces of one line, at this place. -/
  | inline (line : Nat)
  deriving DecidableEq, Repr

/-- The place in the dump of the line with this number in the list. -/
def MemberSource.lineIndex : MemberSource → Nat → Nat
  | .block firstLine, offset => firstLine + offset
  | .inline line, _ => line

/-- The line closes a method of a list at this indentation. -/
def closesMethod (indent line : String) : Bool :=
  line == indent ++ "\x7d" || line == indent ++ "\x7d,"

/-- The members of a list from the line with number `offset` on, after passing over `skip` lines
of a method, with the failure that ends them if there is one. -/
def readMembersFrom (indent : String) (source : MemberSource) :
    Nat → Nat → List String → List Member × Option Error
  | _, _, [] => ([], none)
  | skip + 1, offset, _ :: rest => readMembersFrom indent source skip (offset + 1) rest
  | 0, offset, line :: rest =>
    let place := source.lineIndex offset
    match indent.toList.isPrefixOf? line.toList with
    | none => ([], some (.unrecognizedAt place line))
    | some member =>
      match methodHeader? member with
      | some (name, params) =>
        match cutAtClosing (closesMethod indent) "\x7d" place rest with
        | .error failure => ([], some failure)
        | .ok (body, _) =>
          let (members, failure) :=
            readMembersFrom indent source (body.length + 1) (offset + 1) rest
          (.method name (.ofLines indent params body) :: members, failure)
      | none =>
        match propertyLine? member with
        | some (name, value) =>
          let (members, failure) := readMembersFrom indent source 0 (offset + 1) rest
          (.property name value :: members, failure)
        | none => ([], some (.unrecognizedAt place line))

/-- The members of a list, with the failure that ends them if there is one. A list of one empty
line has none. -/
def readMembers (indent : String) (source : MemberSource) (lines : List String) :
    List Member × Option Error :=
  if lines = [""] then ([], none) else readMembersFrom indent source 0 0 lines

/-- The indentation of the members of a block. -/
def blockIndent : String := "\t\t"

/-- The members of a block whose first line is at this place. -/
def readBlock (firstLine : Nat) (lines : List String) : List Member × Option Error :=
  readMembers blockIndent (.block firstLine) lines

/-- The members of a list on the line at this place. -/
def readInline (line : Nat) (members : String) : List Member × Option Error :=
  readMembers "" (.inline line)
    ((splitOn ", ".toList (trim members.toList)).map String.ofList)

/-- All members of a list, or the failure that ends them. -/
def allMembers : List Member × Option Error → Except Error (List Member)
  | (members, none) => .ok members
  | (_, some failure) => .error failure

/-! ## Members of a class -/

/-- The method that a member adds to a class. -/
def Member.method? (cleaner : Cleaner) (c : ClassDef) : Member → Option Method
  | .method name parts =>
    some { name := name, params := parts.params, body := some (cleaner.body c parts.body),
           typeParams := parts.typeParams }
  | .property .. => none

/-- The property that a member adds to a class. -/
def Member.property? : Member → Option Property
  | .method .. => none
  | .property name value => some { name := name, defaultValue := some value }

/-- The class with the members that are not ignored. -/
def addMembers (ignore : IgnoreList) (cleaner : Cleaner) (members : List Member) (c : ClassDef) :
    ClassDef :=
  let kept := members.filter fun member => !ignore.contains (c.memberKey member.name)
  { c with
    methods := c.methods ++ kept.filterMap (·.method? cleaner c)
    properties := c.properties ++ kept.filterMap Member.property? }

end ClassRecovery.Dump
