/-!
# Paths

Paths are texts whose parts are separated by slashes.
-/

set_option autoImplicit false

namespace ClassRecovery.Path

/-- The path begins at the root of the file system. -/
def isAbsolute (path : String) : Bool := path.toList.head? == some '/'

/-- A directory, in reverse, without slashes and single dots at its end; a slash or a dot that
is all of it stays. -/
def trimDirectory : List Char → List Char
  | ['/'] => ['/']
  | '/' :: before => trimDirectory before
  | '.' :: '/' :: before => trimDirectory ('/' :: before)
  | path => path

/-- The directory of a file, empty if the path has only one part. -/
def parent (path : String) : String :=
  String.ofList (trimDirectory (path.toList.reverse.dropWhile (· != '/'))).reverse

/-- The path of a file as seen from a directory. -/
def join (directory file : String) : String :=
  if isAbsolute file || directory.isEmpty then file
  else if directory.toList.getLast? == some '/' then directory ++ file
  else directory ++ "/" ++ file

/-- The parts of a path between its slashes. -/
def parts (path : String) : List String := splitSlashes [] path.toList
where
  /-- The parts of the rest of a path, after the characters of an open part in reverse. -/
  splitSlashes (part : List Char) : List Char → List String
    | [] => [String.ofList part.reverse]
    | '/' :: rest => String.ofList part.reverse :: splitSlashes [] rest
    | c :: rest => splitSlashes (c :: part) rest

/-- The part stays in the directory where it is looked up. -/
def isStay (part : String) : Bool := part.isEmpty || part == "."

/-- The parts before the last name of a path, if slashes follow that name: such a path can only
be that of a directory. -/
def beforeDirectoryName? (path : String) : Option (List String) :=
  match (parts path).reverse with
  | "" :: rest =>
    match rest.dropWhile String.isEmpty with
    | name :: before => if name == "." || name == ".." then none else some before.reverse
    | [] => none
  | _ => none

/-! ## Limits -/

/-- The longest name of a file, in bytes. -/
def maxNameBytes : Nat := 255

/-- The longest path, in bytes. -/
def maxPathBytes : Nat := 4095

end ClassRecovery.Path
