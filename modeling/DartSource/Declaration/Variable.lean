import DartSource.Member.Property

/-!
# Top-level variables

The keywords of a top-level variable follow the rules of fields, with one more: a plain final
variable has no constructor to set it and so needs its value at once.
-/

namespace DartSource

/-- A top-level variable. -/
structure VariableDecl where
  name : String
  info : Meta := {}
  type : Option String := none
  isExternal : Bool := false
  isLate : Bool := false
  isConst : Bool := false
  isFinal : Bool := false
  value : Option String := none
  deriving DecidableEq, Repr, Inhabited

namespace VariableDecl

/-- A change to a variable. -/
inductive Edit where
  | doc (text : String)
  | annotate (text : String)
  | type (text : String)
  | external
  | late
  | const
  | final
  | value (expression : String)
  deriving DecidableEq, Repr

/-- Applies a change. -/
def edit (decl : VariableDecl) : Edit → VariableDecl
  | .doc text => { decl with info := decl.info.withDoc text }
  | .annotate text => { decl with info := decl.info.annotate text }
  | .type text => { decl with type := some text }
  | .external => { decl with isExternal := true }
  | .late => { decl with isLate := true }
  | .const => { decl with isConst := true }
  | .final => { decl with isFinal := true }
  | .value expression => { decl with value := some expression }

/-- What a variable must satisfy. -/
def rules (decl : VariableDecl) : List Rule :=
  let s : Subject := ⟨.variable, decl.name⟩
  s.usableName decl.name ++
    [s.exclusive ("const", decl.isConst) ("final", decl.isFinal),
     s.exclusive ("const", decl.isConst) ("late", decl.isLate),
     s.exclusive ("const", decl.isConst) ("external", decl.isExternal),
     s.exclusive ("late", decl.isLate) ("external", decl.isExternal),
     s.must (!decl.isConst || decl.value.isSome) .missingValue,
     s.must (!decl.isExternal || decl.value.isNone) .unexpectedValue,
     s.must (!decl.isFinal || decl.isLate || decl.isExternal || decl.value.isSome) .missingValue]

/-- The variable, if it breaks no rule. -/
def build (decl : VariableDecl) : Except Fault VariableDecl :=
  Rule.enforce decl.rules decl

/-- The line that declares the variable. -/
def declaration (decl : VariableDecl) : String :=
  keywords
      [("external", decl.isExternal), ("late", decl.isLate), ("const", decl.isConst),
       ("final", decl.isFinal)] ++
    typeOrVar decl.type decl.isConst decl.isFinal ++ decl.name ++ initialText decl.value ++ ";"

/-- The variable with what stands above it. -/
def fragments (decl : VariableDecl) : List Fragment :=
  decl.info.fragments ++ [.line decl.declaration]

end VariableDecl

end DartSource
