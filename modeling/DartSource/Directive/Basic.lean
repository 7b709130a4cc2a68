import DartSource.Layout.Fragment
import DartSource.Location.Uri
import DartSource.Rule
import DartSource.Text.Quoted

/-!
# Directives

Imports, exports, parts and the directive that names the owner of a part. A directive is one line
and its target is a quoted reference. Faults of a directive are reported under its reference.
-/

namespace DartSource

/-- The names that an import or export lets through or keeps out. -/
structure Combinators where
  shown : List String := []
  hidden : List String := []
  deriving DecidableEq, Repr, Inhabited

namespace Combinators

/-- Names are shown or hidden but not both, and all of them are usable. -/
def rules (s : Subject) (names : Combinators) : List Rule :=
  s.exclusive ("show", !names.shown.isEmpty) ("hide", !names.hidden.isEmpty) ::
    (names.shown ++ names.hidden).flatMap s.usableName

/-- The clause, with a space in front of it. -/
def text (names : Combinators) : String :=
  if !names.shown.isEmpty then " show " ++ Text.commaSep names.shown
  else if !names.hidden.isEmpty then " hide " ++ Text.commaSep names.hidden
  else ""

end Combinators

/-- An import. -/
structure Import where
  uri : Uri
  /-- The name under which the library is imported. -/
  qualifier : Option String := none
  isDeferred : Bool := false
  names : Combinators := {}
  deriving DecidableEq, Repr, Inhabited

namespace Import

/-- A change to an import. -/
inductive Edit where
  | qualifier (name : String)
  | deferred
  | shown (name : String)
  | hidden (name : String)
  deriving DecidableEq, Repr

/-- Applies a change. -/
def edit (directive : Import) : Edit → Import
  | .qualifier name => { directive with qualifier := some name }
  | .deferred => { directive with isDeferred := true }
  | .shown name =>
    { directive with names := { directive.names with shown := directive.names.shown ++ [name] } }
  | .hidden name =>
    { directive with names := { directive.names with hidden := directive.names.hidden ++ [name] } }

/-- What an import must satisfy: a deferred one is reached through its qualifier. -/
def rules (directive : Import) : List Rule :=
  let s : Subject := ⟨.directive, directive.uri.text⟩
  s.implies ("deferred", directive.isDeferred) ("as", directive.qualifier.isSome) ::
    (s.usableName? directive.qualifier ++ directive.names.rules s)

/-- The import, if it breaks no rule. -/
def build (directive : Import) : Except Fault Import :=
  Rule.enforce directive.rules directive

/-- The line of an import. -/
def text (directive : Import) : String :=
  "import " ++ Text.quote directive.uri.text ++
    (if directive.isDeferred then " deferred" else "") ++
    (match directive.qualifier with
      | some name => " as " ++ name
      | none => "") ++
    directive.names.text ++ ";"

end Import

/-- An export. -/
structure Export where
  uri : Uri
  names : Combinators := {}
  deriving DecidableEq, Repr, Inhabited

namespace Export

/-- A change to an export. -/
inductive Edit where
  | shown (name : String)
  | hidden (name : String)
  deriving DecidableEq, Repr

/-- Applies a change. -/
def edit (directive : Export) : Edit → Export
  | .shown name =>
    { directive with names := { directive.names with shown := directive.names.shown ++ [name] } }
  | .hidden name =>
    { directive with names := { directive.names with hidden := directive.names.hidden ++ [name] } }

/-- What an export must satisfy. -/
def rules (directive : Export) : List Rule :=
  directive.names.rules ⟨.directive, directive.uri.text⟩

/-- The export, if it breaks no rule. -/
def build (directive : Export) : Except Fault Export :=
  Rule.enforce directive.rules directive

/-- The line of an export. -/
def text (directive : Export) : String :=
  "export " ++ Text.quote directive.uri.text ++ directive.names.text ++ ";"

end Export

/-- The owner of a part file, by library name or by reference. -/
inductive PartOf where
  | library (name : String)
  | reference (uri : Uri)
  deriving DecidableEq, Repr, Inhabited

namespace PartOf

/-- By name when the owner declares one that is not empty, by reference otherwise. -/
def ofOwner (name : Option String) (uri : Uri) : PartOf :=
  match name with
  | some name => if name = "" then .reference uri else .library name
  | none => .reference uri

/-- The line that names the owner. -/
def text : PartOf → String
  | .library name => "part of " ++ name ++ ";"
  | .reference uri => "part of " ++ Text.quote uri.text ++ ";"

end PartOf

/-- A directive. -/
inductive Directive where
  | importLib (directive : Import)
  | exportLib (directive : Export)
  | part (uri : Uri)
  | partOf (owner : PartOf)
  deriving DecidableEq, Repr, Inhabited

namespace Directive

/-- The line of a directive. -/
def text : Directive → String
  | .importLib directive => directive.text
  | .exportLib directive => directive.text
  | .part uri => "part " ++ Text.quote uri.text ++ ";"
  | .partOf owner => owner.text

/-- The directive as a fragment. -/
def fragments (directive : Directive) : List Fragment :=
  [.line directive.text]

end Directive

end DartSource
