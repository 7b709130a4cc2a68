import DartSource.Location.Path

/-!
# File trees

Directories and files below one top directory, as data. A place in the tree is the list of names
that leads to it. A path is walked component by component: every component but the last must lead
to a directory, `..` goes back to the directory around, and a path that ends in a slash or a dot
means a directory. Names and paths have a greatest length, and a path with a null character in it
leads nowhere.

The top directory stands for the root. A path is read from there whether or not it starts with a
slash, since the empty component in front of a slash leads nowhere, and `..` at the top stays at the
top. A program that joins paths to that of a directory asks for paths from the top again, so those
are paths like any other here. Where a tree is only a part of what a system holds, two things tell
of the directories above it: the name of the top directory in messages, and the length that is left
for a path (`pathLimit`).

Making a directory makes those around it that are missing. A step that fails half way leaves what
it has made so far, so every step gives back the tree as well as its result.
-/

namespace DartSource

/-- The names on the way from the top directory. -/
abbrev Place := List String

/-- The greatest length of a path from the root of a system, in bytes. -/
def FileTree.longestPath : Nat := 4095

/-- Directories and files. -/
structure FileTree where
  /-- What the top directory is called in messages. -/
  top : String
  /-- The greatest length of a path from the top directory, in bytes: what the top directory and a
  slash leave of the longest path, unless the name in messages is not the path of the directory. -/
  pathLimit : Nat := FileTree.longestPath - (top.utf8ByteSize + 1)
  /-- The directories below the top directory. -/
  directories : List Place := []
  /-- The files and their texts. -/
  files : List (Place × String) := []
  deriving DecidableEq, Repr, Inhabited

namespace FileTree

/-! ### Paths -/

/-- The components of a path, as they are written. -/
def rawParts (path : String) : List String :=
  (Path.splitChars path.toList).map String.ofList

/-- A component that leads nowhere. -/
def isIdle (part : String) : Bool := part == "" || part == "."

/-- The components of a path that lead somewhere. -/
def parts (path : String) : List String :=
  (rawParts path).filter fun part => !isIdle part

/-- The path must lead to a directory, by the way it ends. -/
def meansDirectory (path : String) : Bool :=
  (rawParts path).getLast?.all isIdle

/-- The components of the path of the directory around, as they are written. -/
def parentParts (path : String) : List String :=
  ((((rawParts path).reverse.dropWhile isIdle).drop 1).dropWhile isIdle).reverse

/-- The path as it is written in messages. -/
def display (tree : FileTree) (path : String) : String :=
  tree.top ++ "/" ++ path

/-- The path of the directory around, as it is written in messages. -/
def displayParent (tree : FileTree) (path : String) : String :=
  "/".intercalate (tree.top :: parentParts path)

/-- The greatest length of a name, in bytes. -/
def nameLimit : Nat := 255

/-- A file or directory can have this name. -/
def isName (part : String) : Bool :=
  part.utf8ByteSize ≤ nameLimit

/-- The path can lead somewhere. -/
def isUsable (tree : FileTree) (path : String) : Bool :=
  path.utf8ByteSize ≤ tree.pathLimit && !path.toList.contains '\x00'

/-! ### Looking -/

/-- There is a directory at the place. -/
def isDirectory (tree : FileTree) (place : Place) : Bool :=
  place.isEmpty || tree.directories.contains place

/-- The text of the file at the place. -/
def file? (tree : FileTree) (place : Place) : Option String :=
  (tree.files.find? fun entry => entry.1 == place).map Prod.snd

/-- The place that a component leads to. -/
def enter (place : Place) (part : String) : Place :=
  if part = ".." then place.dropLast else place ++ [part]

/-- The place that components lead to, if there is a directory wherever one is needed. -/
def walk? (tree : FileTree) : Place → List String → Option Place
  | place, [] => some place
  | place, part :: rest =>
    if tree.isDirectory place then tree.walk? (enter place part) rest else none

/-- There is something at the end of the path. -/
def pathExists (tree : FileTree) (path : String) : Bool :=
  match tree.walk? [] (parts path) with
  | none => false
  | some place =>
    tree.isUsable path &&
      (tree.isDirectory place || (!meansDirectory path && (tree.file? place).isSome))

/-- The text of the file at the end of the path. -/
def read? (tree : FileTree) (path : String) : Option String :=
  if !tree.isUsable path || meansDirectory path then none
  else (tree.walk? [] (parts path)).bind tree.file?

/-! ### Changing -/

/-- Goes along components and makes the directories that are missing: the tree, and the place that
was reached unless a file was in the way or a name was too long. -/
def makeAlong (tree : FileTree) : Place → List String → FileTree × Option Place
  | place, [] => (tree, some place)
  | place, part :: rest =>
    let next := enter place part
    if tree.isDirectory next then tree.makeAlong next rest
    else if (tree.file? next).isSome || !isName part then (tree, none)
    else makeAlong { tree with directories := tree.directories ++ [next] } next rest

/-- Makes the directories around the end of a path. -/
def makeParent (tree : FileTree) (path : String) : FileTree × Bool :=
  if !tree.isUsable ("/".intercalate (parentParts path)) then (tree, false)
  else
    let (tree, place) := tree.makeAlong [] (parts path).dropLast
    (tree, place.isSome)

/-- The path ends in a dot, slashes apart. -/
def endsInDot (path : String) : Bool :=
  ((rawParts path).reverse.dropWhile (· == "")).head? == some "."

/-- Makes a directory and those around it. A directory that is named by a dot inside it is not
made: it must be there once those around it are. -/
def makeDirectory (tree : FileTree) (path : String) : FileTree × Bool :=
  if !tree.isUsable path then (tree, false)
  else if endsInDot path then
    let (tree, made) := tree.makeParent path
    (tree, made && (tree.walk? [] (parts path)).any tree.isDirectory)
  else
    let (tree, place) := tree.makeAlong [] (parts path)
    (tree, place.isSome)

/-- Puts a text at a place, in place of an earlier one. -/
def putFile (tree : FileTree) (place : Place) (text : String) : FileTree :=
  { tree with files := (place, text) :: tree.files.filter fun entry => entry.1 != place }

/-- Writes a file at the end of a path, in a directory that is there already. -/
def writeFile (tree : FileTree) (path text : String) : FileTree × Bool :=
  match tree.walk? [] (parts path) with
  | none => (tree, false)
  | some place =>
    if !tree.isUsable path || meansDirectory path || tree.isDirectory place ||
        !(parts path).all isName then (tree, false)
    else (tree.putFile place text, true)

end FileTree

end DartSource
