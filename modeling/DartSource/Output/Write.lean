import DartSource.Formatting.Formatter
import DartSource.Lowering.Library
import DartSource.Output.FileTree

/-!
# Writing files

A file is written under a rule: always, or only where nothing is yet. A file that is skipped is
neither rendered nor formatted. A file that is written is rendered and formatted first, then its
directory is made, then its text is put there; whichever of these fails is reported, and nothing is
made before rendering and formatting have succeeded.
-/

namespace DartSource

/-- What happens to something that is there already. -/
inductive Overwrite where
  /-- It is replaced. -/
  | always
  /-- It is left alone. -/
  | ifMissing
  deriving DecidableEq, Repr, Inhabited

/-- What became of a file. -/
inductive WriteResult where
  | written
  | skipped
  deriving DecidableEq, Repr, Inhabited

/-- Why a file was not written. -/
inductive WriteFault where
  /-- Its text could not be formatted. -/
  | formatting (cause : FormattingFault)
  /-- The directory could not be made. -/
  | directory (path : String)
  /-- The text could not be put there. -/
  | file (path : String)
  deriving DecidableEq, Repr, Inhabited

/-- The fault in words. -/
def WriteFault.message : WriteFault → String
  | .formatting cause => cause.message
  | .directory path => "failed to create " ++ path
  | .file path => "failed to write " ++ path

namespace FileTree

/-- Makes the directory of a path and puts a text there. -/
def store (tree : FileTree) (path text : String) : FileTree × Except WriteFault WriteResult :=
  match tree.makeParent path with
  | (tree, false) => (tree, .error (.directory (tree.displayParent path)))
  | (tree, true) =>
    match tree.writeFile path text with
    | (tree, false) => (tree, .error (.file (tree.display path)))
    | (tree, true) => (tree, .ok .written)

/-- Writes a text under a rule. The text is asked for only if it is going to be written. -/
def write (tree : FileTree) (path : String) (overwrite : Overwrite)
    (text : Unit → Except FormattingFault String) : FileTree × Except WriteFault WriteResult :=
  if overwrite = .ifMissing ∧ tree.pathExists path then (tree, .ok .skipped)
  else
    match text () with
    | .error cause => (tree, .error (.formatting cause))
    | .ok text => tree.store path text

/-- Writes a source file under a rule. -/
def writeSource (tree : FileTree) (path : String) (overwrite : Overwrite) (file : SourceFile)
    (formatter : Option Formatter) : FileTree × Except WriteFault WriteResult :=
  tree.write path overwrite fun _ => file.formatted formatter

/-! ### Descriptions in files -/

/-- What follows the last dot in the last component of a path. A dot at the front of the component
does not count. -/
def extension? (path : String) : Option String :=
  match (parts path).getLast? with
  | none => none
  | some name =>
    let backwards := name.toList.reverse
    let stem := (backwards.dropWhile (· != '.')).drop 1
    if name = ".." ∨ stem.isEmpty then none
    else some (String.ofList (backwards.takeWhile (· != '.')).reverse)

/-- The notation of a description, by the name of its file. -/
def formatOf (path : String) : Format :=
  if extension? path = some "json" then .json else .toml

/-- Reads a description from a file. -/
def readLibrary (tree : FileTree) (path : String) : Except Failure Record.Library :=
  match tree.read? path with
  | none => .error (.unreadable (tree.display path))
  | some text => Record.Library.parse (formatOf path) text

end FileTree

end DartSource
