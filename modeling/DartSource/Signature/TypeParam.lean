import DartSource.Rule

/-!
# Type parameters
-/

namespace DartSource

/-- A type parameter, perhaps with an upper bound. -/
structure TypeParam where
  name : String
  bound : Option String := none
  deriving DecidableEq, Repr, Inhabited

namespace TypeParam

/-- The parameter as it is declared. -/
def text (param : TypeParam) : String :=
  match param.bound with
  | some bound => param.name ++ " extends " ++ bound
  | none => param.name

/-- The list in angle brackets, or nothing for an empty list. -/
def listText (params : List TypeParam) : String :=
  if params.isEmpty then "" else "<" ++ Text.commaSep (params.map text) ++ ">"

/-- Faults of a type parameter are reported under its own name. -/
def subject (param : TypeParam) : Subject :=
  ⟨.typeParameter, param.name⟩

/-- Each name must be usable and new, where `seen` are the names before. -/
def rulesAfter (seen : List String) : List TypeParam → List Rule
  | [] => []
  | param :: rest =>
    param.subject.usableName param.name ++
      param.subject.must (!seen.contains param.name) (.duplicate "type parameter" param.name) ::
      rulesAfter (seen ++ [param.name]) rest

/-- The rules of a list of type parameters: usable names, none of them twice. -/
def rules (params : List TypeParam) : List Rule :=
  rulesAfter [] params

end TypeParam

end DartSource
