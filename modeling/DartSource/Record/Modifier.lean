/-!
# Modifiers

Records write their flags as a list of keywords. Which of them a record accepts depends on its
kind and is settled when the record is lowered.
-/

namespace DartSource.Record

/-- A keyword of a record. -/
inductive Modifier where
  | abstract
  | async
  | base
  | const
  | covariant
  | deferred
  | external
  | factory
  | final
  | generator
  | interface
  | late
  /-- A class that can be used as a mixin. -/
  | mixin
  | named
  | optional
  | override
  | required
  | sealed
  | static
  /-- A parameter that is passed on to the superclass. -/
  | super
  /-- A parameter that sets a field. -/
  | this
  deriving DecidableEq, Repr, Inhabited

namespace Modifier

/-- The keyword as it is written. -/
def text : Modifier → String
  | .abstract => "abstract"
  | .async => "async"
  | .base => "base"
  | .const => "const"
  | .covariant => "covariant"
  | .deferred => "deferred"
  | .external => "external"
  | .factory => "factory"
  | .final => "final"
  | .generator => "generator"
  | .interface => "interface"
  | .late => "late"
  | .mixin => "mixin"
  | .named => "named"
  | .optional => "optional"
  | .override => "override"
  | .required => "required"
  | .sealed => "sealed"
  | .static => "static"
  | .super => "super"
  | .this => "this"

/-- All keywords. -/
def all : List Modifier :=
  [.abstract, .async, .base, .const, .covariant, .deferred, .external, .factory, .final,
   .generator, .interface, .late, .mixin, .named, .optional, .override, .required, .sealed,
   .static, .super, .this]

/-- The keyword that a text spells. -/
def ofText? (text : String) : Option Modifier :=
  all.find? fun modifier => modifier.text == text

end Modifier

end DartSource.Record
