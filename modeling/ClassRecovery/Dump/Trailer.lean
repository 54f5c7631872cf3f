import ClassRecovery.Dump.Function
import ClassRecovery.Model.ClassDef

/-!
# What follows a member list

After its members, a bulk call may name the base class and the interfaces of the class. The base
is any run of characters without comma and space; `null` stands for no base if interfaces
follow.
-/

set_option autoImplicit false

namespace ClassRecovery.Dump

open Text

/-- What the end of a bulk call on a class says. -/
inductive Trailer
  | empty
  | base (name : String)
  | interfaces (items : List String)
  | baseAndInterfaces (name : String) (items : List String)
  deriving DecidableEq, Repr

namespace Trailer

/-- A character of the name of a base class. -/
def isBaseChar (c : Char) : Bool := c != ',' && c != ' '

/-- Reads `, B`, a base class alone. -/
def base? (trailer : List Char) : Option Trailer :=
  match ", ".toList.isPrefixOf? trailer with
  | some name =>
    if !name.isEmpty && name.all isBaseChar then some (.base (String.ofList name)) else none
  | none => none

/-- Reads `, null, [L]`, interfaces without a base class. -/
def interfaces? (trailer : List Char) : Option Trailer :=
  ((between? ", null, [".toList [']'] trailer).filter onOneLine).map
    fun list => .interfaces (splitItems list)

/-- Reads `, B, [L]`, a base class and interfaces. -/
def baseAndInterfaces? (trailer : List Char) : Option Trailer := do
  let rest ← ", ".toList.isPrefixOf? trailer
  let name := rest.takeWhile isBaseChar
  let list ← (between? ", [".toList [']'] (rest.dropWhile isBaseChar)).filter onOneLine
  if name.isEmpty then none else some (.baseAndInterfaces (String.ofList name) (splitItems list))

/-- The trailer of a call on a class. -/
def ofText? (trailer : String) : Option Trailer :=
  if trailer.isEmpty then some .empty
  else
    (base? trailer.toList).or
      ((interfaces? trailer.toList).or (baseAndInterfaces? trailer.toList))

/-- The class with what the trailer says of it. -/
def apply (c : ClassDef) : Trailer → ClassDef
  | .empty => c
  | .base name => { c with baseClass := some name }
  | .interfaces items => { c with interfaces := c.interfaces ++ items }
  | .baseAndInterfaces name items =>
    { c with baseClass := some name, interfaces := c.interfaces ++ items }

end Trailer

/-- The base interfaces at the end of a call on an interface. -/
def baseInterfaces? (trailer : String) : Option (List String) :=
  if trailer.isEmpty then some []
  else ((between? ", [".toList [']'] trailer.toList).filter onOneLine).map splitItems

end ClassRecovery.Dump
