import DartSource.Location.Path

/-!
# URI references

What a directive points at: an absolute reference, a path relative to the file that holds the
directive, or a path inside a package. All of them are written with slashes only, whatever the
separators of the input were.
-/

namespace DartSource

/-- A reference to another file. -/
inductive Uri where
  /-- A reference with a scheme or from the root. -/
  | absolute (text : String)
  /-- A path from the referring file. -/
  | relative (path : String)
  /-- A path inside the public part of a package. -/
  | package (name path : String)
  deriving DecidableEq, Repr, Inhabited

namespace Uri

/-- An absolute reference. -/
def ofAbsolute (text : String) : Uri :=
  .absolute (Path.normalize text)

/-- A path from the referring file, as given. -/
def ofRelativePath (path : String) : Uri :=
  .relative (Path.normalize path)

/-- The path that leads from the file `origin` to `target`. -/
def between (target origin : String) : Uri :=
  .relative (Path.relative target origin)

/-- A path inside a package. Slashes at its start say nothing and are left out. -/
def inPackage (name path : String) : Uri :=
  .package name (String.ofList (Path.dropSlashes (Path.normalize path).toList))

/-- The scheme of references into packages. -/
def packageScheme : String := "package:"

/-- The reference that a text stands for. A text with the package scheme and a slash after the
package's name points into that package; any other text with a colon, and any that starts with a
slash, is absolute; the rest are relative. -/
def parse (text : String) : Uri :=
  let normal := (Path.normalize text).toList
  let plain : Uri :=
    if normal.contains ':' ∨ normal.head? = some '/' then .absolute (String.ofList normal)
    else .relative (String.ofList normal)
  match Path.after? packageScheme.toList normal with
  | none => plain
  | some rest =>
    match rest.dropWhile (· != '/') with
    | [] => plain
    | _ :: path => inPackage (String.ofList (rest.takeWhile (· != '/'))) (String.ofList path)

/-- The text of a reference. -/
def text : Uri → String
  | .absolute text => text
  | .relative path => path
  | .package name path => packageScheme ++ name ++ "/" ++ path

/-- The reference points into a package. -/
def isPackage : Uri → Bool
  | .package _ _ => true
  | _ => false

end Uri

end DartSource
