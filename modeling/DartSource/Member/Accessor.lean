import DartSource.Signature.Body
import DartSource.Signature.Meta
import DartSource.Signature.Param

/-!
# Getters and setters

A getter is a callable without parameters; a setter is one with a single plain parameter. Both
follow the common rules for bodies.
-/

namespace DartSource

/-- A getter. -/
structure Getter where
  name : String
  info : Meta := {}
  type : Option String := none
  isStatic : Bool := false
  isExternal : Bool := false
  isAsync : Bool := false
  isGenerator : Bool := false
  body : Option Body := none
  deriving DecidableEq, Repr, Inhabited

namespace Getter

/-- A change to a getter. -/
inductive Edit where
  | doc (text : String)
  | annotate (text : String)
  | type (text : String)
  | static
  | external
  | async
  | generator
  | body (body : Body)
  deriving DecidableEq, Repr

/-- Applies a change. -/
def edit (getter : Getter) : Edit → Getter
  | .doc text => { getter with info := getter.info.withDoc text }
  | .annotate text => { getter with info := getter.info.annotate text }
  | .type text => { getter with type := some text }
  | .static => { getter with isStatic := true }
  | .external => { getter with isExternal := true }
  | .async => { getter with isAsync := true }
  | .generator => { getter with isGenerator := true }
  | .body body => { getter with body := some body }

/-- What a getter must satisfy. -/
def rules (getter : Getter) : List Rule :=
  let s : Subject := ⟨.getter, getter.name⟩
  s.usableName getter.name ++
    Body.rules s getter.isExternal getter.isAsync getter.isGenerator getter.body

/-- The getter, if it breaks no rule. -/
def build (getter : Getter) : Except Fault Getter :=
  Rule.enforce getter.rules getter

/-- The signature of a getter. -/
def signature (getter : Getter) : String :=
  keywords [("external", getter.isExternal), ("static", getter.isStatic)] ++
    (match getter.type with
      | some type => type ++ " "
      | none => "") ++
    "get " ++ getter.name ++ Body.marker getter.isAsync getter.isGenerator

/-- The getter with what stands above it. -/
def fragments (getter : Getter) : List Fragment :=
  getter.info.fragments ++ Body.attach getter.signature getter.body

end Getter

/-- A setter. -/
structure Setter where
  name : String
  param : Param
  info : Meta := {}
  isStatic : Bool := false
  isExternal : Bool := false
  body : Option Body := none
  deriving DecidableEq, Repr, Inhabited

namespace Setter

/-- A change to a setter. -/
inductive Edit where
  | doc (text : String)
  | annotate (text : String)
  | static
  | external
  | body (body : Body)
  deriving DecidableEq, Repr

/-- Applies a change. -/
def edit (setter : Setter) : Edit → Setter
  | .doc text => { setter with info := setter.info.withDoc text }
  | .annotate text => { setter with info := setter.info.annotate text }
  | .static => { setter with isStatic := true }
  | .external => { setter with isExternal := true }
  | .body body => { setter with body := some body }

/-- What a setter must satisfy: its parameter is required positional and names no receiver. -/
def rules (setter : Setter) : List Rule :=
  let s : Subject := ⟨.setter, setter.name⟩
  s.usableName setter.name ++
    s.must (setter.param.group == .required && setter.param.formal?.isNone) .setterParameter ::
    Body.rules s setter.isExternal false false setter.body

/-- The setter, if it breaks no rule. -/
def build (setter : Setter) : Except Fault Setter :=
  Rule.enforce setter.rules setter

/-- The signature of a setter. -/
def signature (setter : Setter) : String :=
  keywords [("external", setter.isExternal), ("static", setter.isStatic)] ++
    "set " ++ setter.name ++ "(" ++ setter.param.text ++ ")"

/-- The setter with what stands above it. -/
def fragments (setter : Setter) : List Fragment :=
  setter.info.fragments ++ Body.attach setter.signature setter.body

end Setter

end DartSource
