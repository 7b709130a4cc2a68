import DartSource.Fault
import DartSource.Location.Uri

/-!
# Resolving assets

How a file refers to another one by the conventions of packages. Two files of one package that are
both public, or both not, refer to each other by relative paths. A public asset is reached from
anywhere else through its package. An asset that is not public can be reached only from its own
package, and there only from files that are not public either.

`Packages` decides by these conventions, possibly with a closed list of known assets, and
`LibraryNames` records which libraries declare a name. A `Resolution` is what a directive needs:
the two lookups, as functions, and the file that is being written.
-/

namespace DartSource

/-- Resolution by package conventions. -/
structure Packages where
  /-- The known assets; all assets are known when there is no list. -/
  known : Option (List Asset) := none
  deriving DecidableEq, Repr, Inhabited

namespace Packages

/-- The asset is known. -/
def knows (packages : Packages) (asset : Asset) : Bool :=
  match packages.known with
  | some assets => assets.contains asset
  | none => true

/-- The reference to an asset from a file, or from outside any package. -/
def resolve (packages : Packages) (asset : Asset) (origin : Option Asset) : Except Fault Uri :=
  let unreachable : Fault := .lookup (.unreachableAsset asset origin)
  let neighbour : Option Asset := origin.filter fun file => file.package == asset.package
  if !packages.knows asset then .error (.lookup (.unknownAsset asset))
  else
    match asset.libPath?, neighbour with
    | some path, none => .ok (Uri.inPackage asset.package path)
    | none, none => .error unreachable
    | some path, some file =>
      if file.libPath?.isSome then .ok (Uri.between asset.path file.path)
      else .ok (Uri.inPackage asset.package path)
    | none, some file =>
      if file.libPath?.isSome then .error unreachable
      else .ok (Uri.between asset.path file.path)

end Packages

/-- Which library name each file declares, if it declares one. Later entries replace earlier. -/
structure LibraryNames where
  entries : List (Asset × Option String) := []
  deriving DecidableEq, Repr, Inhabited

/-- The library name that a file declares, or that it declares none. -/
def LibraryNames.lookup (names : LibraryNames) (asset : Asset) : Except Fault (Option String) :=
  match names.entries.reverse.find? fun entry => entry.1 == asset with
  | some entry => .ok entry.2
  | none => .error (.lookup (.unknownLibrary asset))

/-- What it takes to turn an asset into a directive. -/
structure Resolution where
  /-- The reference to an asset from a file. -/
  paths : Asset → Option Asset → Except Fault Uri
  /-- The library name that a file declares. -/
  libraries : Asset → Except Fault (Option String)
  /-- The file that is being written. -/
  current : Option Asset

/-- Resolution by package conventions and recorded library names. -/
def Resolution.standard (packages : Packages) (names : LibraryNames) (current : Option Asset) :
    Resolution :=
  { paths := packages.resolve, libraries := names.lookup, current }

end DartSource
