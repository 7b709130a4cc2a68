import DartSource.Declaration.Basic
import DartSource.Directive.Basic
import DartSource.Layout.Banner
import DartSource.Layout.Sink

/-!
# Source files

A source file is its options, its directives and its declarations. A directive that is there
already is not added again. Rendering puts the header of a generated file first, then the owner of
a part file, then the directives, then the declarations, with empty lines between these groups and
between declarations.
-/

namespace DartSource

/-- How a file is laid out, and what stands in front of its directives. -/
structure RenderOptions where
  indent : Indent := .standard
  /-- The generator that the banner names; without one there is no banner. -/
  generator : Option String := none
  partOf : Option PartOf := none
  deriving DecidableEq, Repr, Inhabited

/-- A source file. -/
structure SourceFile where
  options : RenderOptions := {}
  directives : List Directive := []
  declarations : List Declaration := []
  deriving DecidableEq, Repr, Inhabited

namespace SourceFile

/-- Adds a directive behind the others, unless it is there already. -/
def addDirective (file : SourceFile) (directive : Directive) : SourceFile :=
  if directive ∈ file.directives then file
  else { file with directives := file.directives ++ [directive] }

/-- Adds a declaration behind the others. -/
def addDeclaration (file : SourceFile) (declaration : Declaration) : SourceFile :=
  { file with declarations := file.declarations ++ [declaration] }

/-- A change to a file. -/
inductive Edit where
  | directive (directive : Directive)
  | directives (directives : List Directive)
  | declaration (declaration : Declaration)
  | declarations (declarations : List Declaration)
  deriving DecidableEq, Repr

/-- Applies a change. -/
def edit (file : SourceFile) : Edit → SourceFile
  | .directive directive => file.addDirective directive
  | .directives directives => directives.foldl addDirective file
  | .declaration declaration => file.addDeclaration declaration
  | .declarations declarations => declarations.foldl addDeclaration file

/-- There are neither directives nor declarations. -/
def isEmpty (file : SourceFile) : Bool :=
  file.directives.isEmpty && file.declarations.isEmpty

/-- The notice and the banner. -/
def headerFragments (options : RenderOptions) : List Fragment :=
  match options.generator with
  | some generator => [.line Banner.notice, .blank, .raw (Banner.text generator), .blank]
  | none => []

/-- The owner of a part file, with an empty line behind it unless nothing follows. -/
def partOfFragments (file : SourceFile) : List Fragment :=
  match file.options.partOf with
  | some owner =>
    (Directive.partOf owner).fragments ++ (if file.isEmpty then [] else [.blank])
  | none => []

/-- Declarations with an empty line between neighbours. -/
def spaced : List Declaration → List Fragment
  | [] => []
  | [last] => last.fragments
  | first :: second :: rest => first.fragments ++ .blank :: spaced (second :: rest)

/-- The whole file as fragments. -/
def fragments (file : SourceFile) : List Fragment :=
  headerFragments file.options ++ file.partOfFragments ++
    file.directives.flatMap Directive.fragments ++
    (if file.directives.isEmpty || file.declarations.isEmpty then [] else [.blank]) ++
    spaced file.declarations

/-- The text of the file. -/
def render (file : SourceFile) : String :=
  ((Sink.empty file.options.indent).fragments file.fragments).text

end SourceFile

end DartSource
