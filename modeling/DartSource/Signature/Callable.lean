import DartSource.Signature.Body
import DartSource.Signature.Meta
import DartSource.Signature.Param
import DartSource.Signature.TypeParam

/-!
# Callables

What methods and top-level functions have in common: a signature with type parameters and
parameters, the keywords of its body, and the body. The rules are stated once, for whichever kind
of node they are reported under.

A callable keeps its parameters in the order in which they were given; grouping them is the work of
`Callable.paramList`.
-/

namespace DartSource

/-- A signature with its body. -/
structure Callable where
  name : String
  info : Meta := {}
  returns : Option String := none
  typeParams : List TypeParam := []
  params : List Param := []
  /-- A formatter should put one parameter on each line. -/
  multiline : Bool := false
  isExternal : Bool := false
  isAsync : Bool := false
  isGenerator : Bool := false
  body : Option Body := none
  deriving DecidableEq, Repr, Inhabited

namespace Callable

/-- A change to a callable. -/
inductive Edit where
  | doc (text : String)
  | annotate (text : String)
  | returns (type : String)
  | typeParam (param : TypeParam)
  | param (param : Param)
  | params (params : List Param)
  | multiline
  | external
  | async
  | generator
  | body (body : Body)
  deriving DecidableEq, Repr

/-- Applies a change. -/
def edit (callable : Callable) : Edit → Callable
  | .doc text => { callable with info := callable.info.withDoc text }
  | .annotate text => { callable with info := callable.info.annotate text }
  | .returns type => { callable with returns := some type }
  | .typeParam param => { callable with typeParams := callable.typeParams ++ [param] }
  | .param param => { callable with params := callable.params ++ [param] }
  | .params params => { callable with params := callable.params ++ params }
  | .multiline => { callable with multiline := true }
  | .external => { callable with isExternal := true }
  | .async => { callable with isAsync := true }
  | .generator => { callable with isGenerator := true }
  | .body body => { callable with body := some body }

/-- The parameters by group. -/
def paramList (callable : Callable) : ParamList :=
  ParamList.ofParams callable.params

/-- What every callable must satisfy. -/
def rules (kind : NodeKind) (callable : Callable) : List Rule :=
  let s : Subject := ⟨kind, callable.name⟩
  s.usableName callable.name ++
    TypeParam.rules callable.typeParams ++
    callable.paramList.rules s ++
    callable.paramList.noFormals s .formalOutsideConstructor ++
    Body.rules s callable.isExternal callable.isAsync callable.isGenerator callable.body

/-- The signature, with further keywords behind `external`. -/
def signature (callable : Callable) (flags : List (String × Bool)) : String :=
  keywords (("external", callable.isExternal) :: flags) ++
    (match callable.returns with
      | some type => type ++ " "
      | none => "") ++
    callable.name ++ TypeParam.listText callable.typeParams ++
    callable.paramList.source callable.multiline ++
    Body.marker callable.isAsync callable.isGenerator

end Callable

end DartSource
