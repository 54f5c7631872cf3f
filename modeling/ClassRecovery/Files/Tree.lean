import ClassRecovery.Files.Access
import ClassRecovery.Files.Path

/-!
# Trees of files

A tree of files in memory, as the program sees it from its working directory. A directory is
there if some file is below it, or if every system has it. The working directory has no name, and
the directories around it are taken for one.
-/

set_option autoImplicit false

namespace ClassRecovery

/-- Where a path leads, whether there is something or not. -/
inductive Place
  /-- Below the working directory. -/
  | within (parts : List String)
  /-- Below the directory around the working directory. -/
  | around (parts : List String)
  /-- Below the root of the system. -/
  | system (parts : List String)
  deriving DecidableEq, Repr

/-! ## Places -/

namespace Place

/-- Where a path begins. -/
def start (path : String) : Place := if Path.isAbsolute path then .system [] else .within []

/-- The place of a name in a directory. -/
def child (name : String) : Place → Place
  | .within parts => .within (parts ++ [name])
  | .around parts => .around (parts ++ [name])
  | .system parts => .system (parts ++ [name])

/-- The directory of a place; the root of the system is its own. -/
def parent : Place → Place
  | .within [] => .around []
  | .within parts => .within parts.dropLast
  | .around parts => .around parts.dropLast
  | .system parts => .system parts.dropLast

/-- The place that a part of a path leads to from a directory. -/
def step (place : Place) (part : String) : Place :=
  if Path.isStay part then place
  else if part == ".." then place.parent
  else place.child part

/-- The place of a path, whatever is there and on the way. -/
def ofPath (path : String) : Place := (Path.parts path).foldl step (start path)

/-- The second place is the first one or lies below it. -/
def holds : Place → Place → Bool
  | .within above, .within below => above.isPrefixOf below
  | .around above, .around below => above.isPrefixOf below
  | .system above, .system below => above.isPrefixOf below
  | _, _ => false

/-- Directories that are there without any file. -/
def standardDirectories : List Place :=
  .within [] :: .around [] :: .system [] ::
    ["bin", "dev", "etc", "lib", "proc", "tmp", "usr"].map fun name => .system [name]

/-- The device that holds nothing and swallows all. -/
def nullDevice : Place := .system ["dev", "null"]

end Place

/-- Files with their places and their contents. -/
structure FileTree where
  files : List (Place × ByteArray) := []

namespace FileTree

/-- What is found at a place. -/
inductive Target
  | file (content : ByteArray)
  | directory
  | device
  | missing

/-- What is found at a place. -/
def target (tree : FileTree) (place : Place) : Target :=
  if place = .nullDevice then .device
  else
    match tree.files.lookup place with
    | some content => .file content
    | none =>
      if Place.standardDirectories.contains place
          || tree.files.any fun file => place.holds file.1 then
        .directory
      else .missing

/-! ## Following paths -/

/-- Only a directory can be gone on from. -/
def enter (tree : FileTree) (place : Place) : Except FileError Unit :=
  match tree.target place with
  | .directory => .ok ()
  | .file _ | .device => .error .notDirectory
  | .missing => .error .notFound

/-- The parts of a path, followed one by one from a place; every step starts in a directory. -/
def follow (tree : FileTree) (place : Place) : List String → Except FileError Place
  | [] => .ok place
  | part :: rest => do
    tree.enter place
    if part.utf8ByteSize > Path.maxNameBytes then .error .nameTooLong
    else follow tree (place.step part) rest

/-- The text can be a path. -/
def checkPath (path : String) : Except FileError Unit :=
  if path.isEmpty then .error .notFound
  else if path.toList.contains '\x00' then
    .error (.other "file name contained an unexpected NUL byte")
  else if path.utf8ByteSize > Path.maxPathBytes then .error .nameTooLong
  else .ok ()

/-- Where a path leads. -/
def resolve (tree : FileTree) (path : String) : Except FileError Place := do
  checkPath path
  tree.follow (.start path) (Path.parts path)

/-- Where a path leads under which a file may be made. A name with slashes after it can only be
that of a directory. -/
def resolveOutput (tree : FileTree) (path : String) : Except FileError Place := do
  checkPath path
  match Path.beforeDirectoryName? path with
  | none => tree.follow (.start path) (Path.parts path)
  | some before =>
    tree.enter (← tree.follow (.start path) before)
    .error .isDirectory

/-! ## Reading and writing -/

/-- The text of a file. -/
def readText (tree : FileTree) (path : String) : Except FileError String := do
  match tree.target (← tree.resolve path) with
  | .file content =>
    match String.fromUTF8? content with
    | some text => .ok text
    | none => .error .invalidEncoding
  | .device => .ok ""
  | .directory => .error .isDirectory
  | .missing => .error .notFound

/-- The tree with a file that has this content. -/
def put (tree : FileTree) (place : Place) (content : ByteArray) : FileTree :=
  ⟨(place, content) :: tree.files.filter fun file => file.1 != place⟩

/-- The tree with a text at a path; its directory must be there. -/
def writeText (tree : FileTree) (path text : String) : Except FileError FileTree := do
  let place ← tree.resolveOutput path
  match tree.target place with
  | .directory => .error .isDirectory
  | .device => .ok tree
  | .file _ | .missing => .ok (tree.put place text.toUTF8)

/-- The tree of files given by their paths; the directories on the way are made. -/
def ofFiles (files : List (String × ByteArray)) : FileTree :=
  files.foldl (fun tree file => tree.put (.ofPath file.1) file.2) {}

/-- Access to a tree of files. -/
def access : Files (StateM FileTree) where
  readText path := do return (← get).readText path
  writeText path text := do
    match (← get).writeText path text with
    | .ok tree => set tree; return .ok ()
    | .error cause => return .error cause

end FileTree

end ClassRecovery
