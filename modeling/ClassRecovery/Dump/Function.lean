import ClassRecovery.Model.Member
import ClassRecovery.Text.Cut

/-!
# Functions of the dump

Parameter lists, and the parts of a function whose opening and closing lines are known. A generic
function is written as a wrapper: its first body line returns the real function and its last one
closes it, and the parameters of the wrapper are the type parameters.
-/

set_option autoImplicit false

namespace ClassRecovery.Dump

open Text

/-- The nonempty items of a list separated by a comma and a space. -/
def splitItems (list : List Char) : List String :=
  ((splitOn ", ".toList list).filter (!·.isEmpty)).map String.ofList

/-- The parameters of a list: names only. -/
def parseParams (list : String) : List Property :=
  (splitItems list.toList).map fun name => { name := name }

/-- Parameters, type parameters and body of a function. -/
structure FunctionParts where
  params : List Property
  typeParams : Option (List String)
  body : List String
  deriving DecidableEq, Repr

/-- The parameters of the function that a wrapper returns, if the line opens one. -/
def wrappedParams? (indent line : String) : Option String := do
  let header ← (indent ++ "\treturn function(").toList.isPrefixOf? line.toList
  let params ← (") \x7b".toList.isSuffixOf? header).filter onOneLine
  some (String.ofList params)

/-- The lines inside a wrapper whose own body is given: neither its first nor its last line. -/
def unwrapped (body : List String) : List String := (body.drop 1).dropLast

/-- The parts of the function with these parameters and these lines between its opening line, at
`indent`, and its closing line. -/
def FunctionParts.ofLines (indent params : String) (body : List String) : FunctionParts :=
  let plain : FunctionParts := { params := parseParams params, typeParams := none, body := body }
  match body.head?.bind (wrappedParams? indent) with
  | some inner =>
    if 2 ≤ body.length && body.getLast? == some (indent ++ "\t\x7d;") then
      let typeParams := splitItems params.toList
      { params := parseParams inner
        typeParams := if typeParams.isEmpty then none else some typeParams
        body := unwrapped body }
    else plain
  | none => plain

end ClassRecovery.Dump
