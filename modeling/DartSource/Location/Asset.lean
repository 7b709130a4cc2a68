import DartSource.Location.Path

/-!
# Assets

An asset is a file known by its package and its path in that package. The path is written with
slashes and does not start with `./` or `/` as far as one pass over each can see. Assets under
`lib/` are the public ones: other packages can refer to them.
-/

namespace DartSource

/-- A file within a package. -/
structure Asset where
  package : String
  path : String
  deriving DecidableEq, Repr, Inhabited

namespace Asset

/-- The asset at a path: separators made slashes, then the `./` steps at the start left out, then
the slashes at the start. -/
def ofPath (package path : String) : Asset :=
  { package
    path := String.ofList
      (Path.dropSlashes (Path.dropDotSlashes (Path.normalize path).toList)) }

/-- The path below `lib/`, for a public asset. -/
def libPath? (asset : Asset) : Option String :=
  (Path.after? "lib/".toList asset.path.toList).map String.ofList

/-- Package and path, with a bar between them. -/
def text (asset : Asset) : String :=
  asset.package ++ "|" ++ asset.path

end Asset

end DartSource
