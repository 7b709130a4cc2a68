import DartSource.Directive.Pending
import DartSource.Lowering.Declaration
import DartSource.Record.Decode
import DartSource.Record.Encode
import DartSource.SourceFile
import DartSource.Tree.Json
import DartSource.Tree.Toml.Depth
import DartSource.Tree.Toml.Document

/-!
# Lowering libraries

A library is read from a text and lowered to a source file: its output first, then its directives,
then its declarations, up to the first failure. No record sees another one; what they share is the
`Surroundings`, the converters and lookups that the caller provides.
-/

namespace DartSource

/-- What lowering asks about the world outside a description. -/
structure Surroundings where
  /-- Converters for custom constants. -/
  converters : Converters := {}
  /-- The reference to an asset from a file. -/
  paths : Asset → Option Asset → Except Fault Uri := Packages.resolve {}
  /-- The library name that a file declares. -/
  libraries : Asset → Except Fault (Option String) := LibraryNames.lookup {}

namespace Surroundings

/-- Surroundings with the conventions of packages and recorded library names. -/
def standard (converters : Converters) (packages : Packages) (names : LibraryNames) :
    Surroundings :=
  { converters, paths := packages.resolve, libraries := names.lookup }

/-- What directives need when the given file is written. -/
def resolution (surroundings : Surroundings) (current : Option Asset) : Resolution :=
  { paths := surroundings.paths, libraries := surroundings.libraries, current }

end Surroundings

namespace Lowering

/-- The asset that a record means. -/
def asset (record : Record.AssetRef) : Asset :=
  Asset.ofPath record.package record.path

/-! ### Directives -/

/-- The reference that a target stands for. -/
def target (resolution : Resolution) : Record.Target → Except Fault Uri
  | .uri text => .ok (Uri.parse text)
  | .asset record => resolution.paths (asset record) resolution.current

/-- A directive, once its keywords are checked. -/
def directiveNode (resolution : Resolution) : Record.Directive → Except Fault Directive
  | .importLib record => do
    let uri ← target resolution record.target
    let node ← Import.build
      { uri
        qualifier := record.qualifier
        isDeferred := decide (.deferred ∈ record.modifiers)
        names := { shown := record.shown, hidden := record.hidden } }
    return .importLib node
  | .exportLib record shown hidden => do
    let uri ← target resolution record
    let node ← Export.build { uri, names := { shown, hidden } }
    return .exportLib node
  | .part record => do
    let uri ← target resolution record
    return .part uri

/-- The keywords of a directive. Only imports have any. -/
def checkDirective (path : RecordPath) : Record.Directive → Except Failure Unit
  | .importLib record => Acceptance.anImport.check path record.modifiers
  | _ => .ok ()

/-- A directive. -/
def directive (resolution : Resolution) (path : RecordPath) (record : Record.Directive) :
    Except Failure Directive := do
  checkDirective path record
  atPath path (directiveNode resolution record)

/-! ### Output -/

/-- The owner of a part file. -/
def partOf (resolution : Resolution) (path : RecordPath) :
    Record.PartOf → Except Failure PartOf
  | .library name =>
    if name = "" then .error (.record path .emptyLibraryName) else .ok (.library name)
  | .uri text => .ok (.reference (Uri.parse text))
  | .asset record => atPath path (resolution.partOf (asset record))

/-- The owner of a part file, if there is one. -/
def partOf? (resolution : Resolution) (path : RecordPath) :
    Option Record.PartOf → Except Failure (Option PartOf)
  | none => .ok none
  | some record => do
    let owner ← partOf resolution path record
    return some owner

/-- The layout of the file. -/
def options (resolution : Resolution) (path : RecordPath) (record : Record.Output) :
    Except Failure RenderOptions := do
  let owner ← partOf? resolution (path.field "part_of") record.partOf
  return {
    indent := (record.indent.map Indent.ofWidth).getD .standard
    generator := record.generator
    partOf := owner }

end Lowering

namespace Record.Library

/-- The source file that a library describes. -/
def lower (library : Library) (surroundings : Surroundings) : Except Failure SourceFile := do
  let root : RecordPath := {}
  let resolution := surroundings.resolution (library.output.asset.map Lowering.asset)
  let options ← Lowering.options resolution (root.field "output") library.output
  let directives ←
    Lowering.each root "directives" (Lowering.directive resolution) library.directives
  let declarations ←
    Lowering.each root "declarations" (Lowering.declaration surroundings.converters)
      library.declarations
  let file : SourceFile := { options }
  return (file.edit (.directives directives)).edit (.declarations declarations)

/-- The tree of a text in the given notation. -/
def treeOf? : Format → String → Option Tree
  | .json, text => Json.parse? text
  | .toml, text => Toml.parse? text

/-- Reads a library from a text. In the table notation the lists for an output and its assets may
be too long. -/
def parse (format : Format) (text : String) : Except Failure Library :=
  match (treeOf? format text).bind (readLibrary (format == .toml)) with
  | some library => .ok library
  | none => .error (.malformed format)

/-- Writes a library in the table notation and reads it back. There is no result if it holds a
constant that cannot be written, and a failure if it holds one that is written too deep. -/
def reread? (library : Library) : Option (Except Failure Library) := do
  let tree ← writeLibrary library
  match if Toml.isShallow tree then readLibrary true tree else none with
  | some again => return .ok again
  | none => return .error (.malformed .toml)

end Record.Library

end DartSource
