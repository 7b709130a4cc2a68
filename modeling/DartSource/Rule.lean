import DartSource.Fault
import DartSource.Text.Identifier

/-!
# Rules

What a kind of node demands is written down as a list of rules, in the order in which they are
reported. A rule is a condition together with the fault that a broken condition stands for, so a
draft is legal exactly when every condition of its list holds, and otherwise its fault is that of
the first rule whose condition fails.
-/

namespace DartSource

/-- A condition on a draft, and the fault to report when it does not hold. -/
structure Rule where
  holds : Bool
  fault : Fault
  deriving DecidableEq, Repr

namespace Rule

/-- The fault of the first broken rule. -/
def firstFault? (rules : List Rule) : Option Fault :=
  (rules.find? fun rule => !rule.holds).map Rule.fault

/-- The value, if no rule is broken. -/
def enforce (rules : List Rule) (value : α) : Except Fault α :=
  match firstFault? rules with
  | some fault => .error fault
  | none => .ok value

end Rule

/-- The node that rules speak about. -/
structure Subject where
  kind : NodeKind
  name : String
  deriving DecidableEq, Repr

namespace Subject

/-- The fault of breaking a rule in this node. -/
def fault (subject : Subject) (violation : Violation) : Fault :=
  .structural subject.kind subject.name violation

/-- The condition must hold. -/
def must (subject : Subject) (holds : Bool) (violation : Violation) : Rule :=
  { holds, fault := subject.fault violation }

/-- A name must be an identifier and not a reserved word. -/
def usableName (subject : Subject) (name : String) : List Rule :=
  [subject.must (Text.isIdentifier name) (.invalidIdentifier name),
   subject.must (!Text.isReserved name) (.reservedWord name)]

/-- A name that need not be given must be usable if it is. -/
def usableName? (subject : Subject) : Option String → List Rule
  | some name => subject.usableName name
  | none => []

/-- Two keywords must not both be set. -/
def exclusive (subject : Subject) (first : String × Bool) (second : String × Bool) : Rule :=
  subject.must (!(first.2 && second.2)) (.conflict first.1 second.1)

/-- A keyword may be set only together with another one. -/
def implies (subject : Subject) (keyword : String × Bool) (other : String × Bool) : Rule :=
  subject.must (!keyword.2 || other.2) (.requires keyword.1 other.1)

/-- The names must be distinct; the rule for each says that no earlier one equals it. -/
def distinct (subject : Subject) (what : String) (seen : List String) : List String → List Rule
  | [] => []
  | name :: rest =>
    subject.must (!seen.contains name) (.duplicate what name) ::
      subject.distinct what (seen ++ [name]) rest

end Subject

/-- Keywords whose flag is set, each with a space behind it, in the given order. -/
def keywords (flags : List (String × Bool)) : String :=
  String.join ((flags.filter Prod.snd).map fun flag => flag.1 ++ " ")

end DartSource
