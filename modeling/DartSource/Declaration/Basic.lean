import DartSource.Declaration.Class
import DartSource.Declaration.Enum
import DartSource.Declaration.Extension
import DartSource.Declaration.Mixin
import DartSource.Declaration.Variable

/-!
# Declarations

What may stand at the top level of a file.
-/

namespace DartSource

/-- A top-level function. -/
structure FunctionDecl where
  callable : Callable
  deriving DecidableEq, Repr, Inhabited

namespace FunctionDecl

/-- Applies a change. -/
def edit (decl : FunctionDecl) (change : Callable.Edit) : FunctionDecl :=
  { decl with callable := decl.callable.edit change }

/-- What a function must satisfy. -/
def rules (decl : FunctionDecl) : List Rule :=
  decl.callable.rules .functionDecl

/-- The function, if it breaks no rule. -/
def build (decl : FunctionDecl) : Except Fault FunctionDecl :=
  Rule.enforce decl.rules decl

/-- The function with what stands above it. -/
def fragments (decl : FunctionDecl) : List Fragment :=
  decl.callable.info.fragments ++
    Body.attach (decl.callable.signature []) decl.callable.body

end FunctionDecl

/-- A top-level declaration. -/
inductive Declaration where
  | classDecl (decl : ClassDecl)
  | enumDecl (decl : EnumDecl)
  | mixinDecl (decl : MixinDecl)
  | extensionDecl (decl : ExtensionDecl)
  | functionDecl (decl : FunctionDecl)
  | variable (decl : VariableDecl)
  deriving DecidableEq, Repr, Inhabited

namespace Declaration

/-- The declared name; an extension may have none. -/
def name? : Declaration → Option String
  | .classDecl decl => some decl.name
  | .enumDecl decl => some decl.name
  | .mixinDecl decl => some decl.name
  | .extensionDecl decl => decl.name
  | .functionDecl decl => some decl.callable.name
  | .variable decl => some decl.name

/-- The declaration with what stands above it. -/
def fragments : Declaration → List Fragment
  | .classDecl decl => decl.fragments
  | .enumDecl decl => decl.fragments
  | .mixinDecl decl => decl.fragments
  | .extensionDecl decl => decl.fragments
  | .functionDecl decl => decl.fragments
  | .variable decl => decl.fragments

end Declaration

end DartSource
