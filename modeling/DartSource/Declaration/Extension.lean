import DartSource.Member.Basic
import DartSource.Rule

/-!
# Extensions

An extension adds members to a type from outside, so it has neither constructors nor fields of
instances. It need not have a name; faults of a nameless one are reported under its target.
-/

namespace DartSource

/-- An extension. -/
structure ExtensionDecl where
  target : String
  name : Option String := none
  info : Meta := {}
  typeParams : List TypeParam := []
  members : List Member := []
  deriving DecidableEq, Repr, Inhabited

namespace ExtensionDecl

/-- A change to an extension. -/
inductive Edit where
  | name (name : String)
  | doc (text : String)
  | annotate (text : String)
  | typeParam (param : TypeParam)
  | member (member : Member)
  deriving DecidableEq, Repr

/-- Applies a change. -/
def edit (decl : ExtensionDecl) : Edit → ExtensionDecl
  | .name name => { decl with name := some name }
  | .doc text => { decl with info := decl.info.withDoc text }
  | .annotate text => { decl with info := decl.info.annotate text }
  | .typeParam param => { decl with typeParams := decl.typeParams ++ [param] }
  | .member member => { decl with members := decl.members ++ [member] }

/-- The name under which faults are reported. -/
def label (decl : ExtensionDecl) : String :=
  decl.name.getD ("on " ++ decl.target)

/-- What an extension must satisfy. -/
def rules (decl : ExtensionDecl) : List Rule :=
  let s : Subject := ⟨.extensionDecl, decl.label⟩
  s.usableName? decl.name ++
    [s.must (!Text.allBlank decl.target) (.missingType "on")] ++
    TypeParam.rules decl.typeParams ++
    [s.must (!decl.members.any Member.isConstructor)
      (.illegalMember "an extension" "constructors"),
     s.must (!decl.members.any Member.isInstanceField)
      (.illegalMember "an extension" "instance fields")]

/-- The extension, if it breaks no rule. -/
def build (decl : ExtensionDecl) : Except Fault ExtensionDecl :=
  Rule.enforce decl.rules decl

/-- The line that opens the extension. -/
def header (decl : ExtensionDecl) : String :=
  "extension" ++
    (match decl.name with
      | some name => " " ++ name
      | none => "") ++
    TypeParam.listText decl.typeParams ++ " on " ++ decl.target

/-- The extension with what stands above it. -/
def fragments (decl : ExtensionDecl) : List Fragment :=
  decl.info.fragments ++ [Fragment.braced decl.header (Member.bodyFragments decl.members)]

end ExtensionDecl

end DartSource
