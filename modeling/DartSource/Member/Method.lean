import DartSource.Signature.Callable

/-!
# Methods

A method is a callable that may be static or override an inherited one, but not both.
-/

namespace DartSource

/-- A method. -/
structure Method where
  callable : Callable
  isOverride : Bool := false
  isStatic : Bool := false
  deriving DecidableEq, Repr, Inhabited

namespace Method

/-- A change to a method. -/
inductive Edit where
  /-- A change that a function could take as well. -/
  | callable (edit : Callable.Edit)
  | override
  | static
  deriving DecidableEq, Repr

/-- Applies a change. -/
def edit (method : Method) : Edit → Method
  | .callable change => { method with callable := method.callable.edit change }
  | .override => { method with isOverride := true }
  | .static => { method with isStatic := true }

/-- What a method must satisfy. -/
def rules (method : Method) : List Rule :=
  let s : Subject := ⟨.method, method.callable.name⟩
  method.callable.rules .method ++
    [s.exclusive ("static", method.isStatic) ("@override", method.isOverride)]

/-- The method, if it breaks no rule. -/
def build (method : Method) : Except Fault Method :=
  Rule.enforce method.rules method

/-- The signature of a method. -/
def signature (method : Method) : String :=
  method.callable.signature [("static", method.isStatic)]

/-- The method with what stands above it; the override mark is the last annotation. -/
def fragments (method : Method) : List Fragment :=
  method.callable.info.fragments ++
    (if method.isOverride then [.line "@override"] else []) ++
    Body.attach method.signature method.callable.body

end Method

end DartSource
