import DartSource.Member.Basic
import DartSource.Rule

/-!
# Supertype clauses

The rules that classes, enums and mixins share about the types they extend, mix in and implement.
Types are compared by their base type, so type arguments and nullability do not hide a repetition.
-/

namespace DartSource

/-- The modifier that limits how a class or mixin may be used. -/
inductive ClassModifier where
  | base
  | interface
  | final
  | sealed
  deriving DecidableEq, Repr, Inhabited

/-- The keyword of a modifier. -/
def ClassModifier.text : ClassModifier → String
  | .base => "base"
  | .interface => "interface"
  | .final => "final"
  | .sealed => "sealed"

namespace Supertype

/-- A clause with its types, or nothing when there are none. -/
def clause (keyword : String) (types : List String) : String :=
  if types.isEmpty then "" else " " ++ keyword ++ " " ++ Text.commaSep types

/-- No type in the clause is the declared type itself. -/
def notSelf (s : Subject) (owner keyword : String) (types : List String) : List Rule :=
  types.map fun type => s.must (Text.baseType type != owner) (.selfReference owner keyword)

/-- No type is both mixed in and implemented. -/
def disjoint (s : Subject) (mixins interfaces : List String) : List Rule :=
  mixins.map fun type =>
    s.must (!(interfaces.map Text.baseType).contains (Text.baseType type))
      (.mixinAndInterface (Text.baseType type))

/-- Every constructor among the members belongs to the declared type. -/
def ownConstructors (s : Subject) (owner : String) (members : List Member) : List Rule :=
  (members.filterMap Member.constructor?).map fun constructor =>
    s.must (constructor.className == owner) (.foreignConstructor owner constructor.className)

end Supertype

end DartSource
