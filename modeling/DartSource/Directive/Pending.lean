import DartSource.Directive.Basic
import DartSource.Location.Resolver

/-!
# Pending directives

A directive whose target is still an asset. Resolving it finds the reference first and builds the
directive from it. The owner of a part is asked for its library name before its path is looked at,
so a named owner needs no path.
-/

namespace DartSource

/-- The owner of a part file: by its library name if it declares one that is not empty, by reference
otherwise. -/
def Resolution.partOf (resolution : Resolution) (owner : Asset) : Except Fault PartOf := do
  let name ← resolution.libraries owner
  match name.filter (· != "") with
  | some name => return .library name
  | none =>
    let uri ← resolution.paths owner resolution.current
    return .reference uri

/-- A directive that points at an asset. -/
inductive Pending where
  | importLib (asset : Asset) (qualifier : Option String) (isDeferred : Bool) (names : Combinators)
  | exportLib (asset : Asset) (names : Combinators)
  | part (asset : Asset)
  | partOf (owner : Asset)
  deriving DecidableEq, Repr

/-- The directive with its target resolved. -/
def Pending.resolve (resolution : Resolution) : Pending → Except Fault Directive
  | .importLib asset qualifier isDeferred names => do
    let uri ← resolution.paths asset resolution.current
    let directive ← Import.build { uri, qualifier, isDeferred, names }
    return .importLib directive
  | .exportLib asset names => do
    let uri ← resolution.paths asset resolution.current
    let directive ← Export.build { uri, names }
    return .exportLib directive
  | .part asset => do
    let uri ← resolution.paths asset resolution.current
    return .part uri
  | .partOf owner => do
    let owner ← resolution.partOf owner
    return .partOf owner

end DartSource
