import DartSource.Rule

/-!
# Parameters and parameter lists

A parameter belongs to one of three groups: required positional, optional positional or named. A
list of parameters is laid out group by group, whatever the order in which its parameters were
given, and each group keeps the order of its own members.

A draft is a `Param` under construction: `edit` applies one change to it and `build` checks it.
-/

namespace DartSource

/-- A parameter. -/
structure Param where
  name : String
  type : Option String := none
  isNamed : Bool := false
  isRequired : Bool := false
  isOptional : Bool := false
  /-- Written `this.name`. -/
  isField : Bool := false
  /-- Written `super.name`. -/
  isSuper : Bool := false
  defaultValue : Option String := none
  deriving DecidableEq, Repr, Inhabited

/-- The groups of a parameter list. -/
inductive ParamGroup where
  | required
  | optional
  | named
  deriving DecidableEq, Repr, Inhabited

namespace Param

/-- A change to a parameter. -/
inductive Edit where
  | type (text : String)
  | named
  | required
  | optional
  | fieldFormal
  | superFormal
  | defaultValue (expression : String)
  deriving DecidableEq, Repr

/-- Applies a change. Setting a thing again replaces it. -/
def edit (param : Param) : Edit → Param
  | .type text => { param with type := some text }
  | .named => { param with isNamed := true }
  | .required => { param with isRequired := true }
  | .optional => { param with isOptional := true }
  | .fieldFormal => { param with isField := true }
  | .superFormal => { param with isSuper := true }
  | .defaultValue expression => { param with defaultValue := some expression }

/-- The group of a parameter. -/
def group (param : Param) : ParamGroup :=
  if param.isNamed then .named
  else if param.isOptional then .optional
  else .required

/-- The parameter's name with its receiver, if it has one. -/
def formal? (param : Param) : Option String :=
  if param.isField then some ("this." ++ param.name)
  else if param.isSuper then some ("super." ++ param.name)
  else none

/-- Only parameters that may be left out can have a default value. -/
def mayDefault (param : Param) : Bool :=
  param.isOptional || (param.isNamed && !param.isRequired)

/-- The node that the rules of a parameter speak about. -/
def subject (param : Param) : Subject :=
  ⟨.parameter, param.name⟩

/-- What a parameter must satisfy by itself. -/
def rules (param : Param) : List Rule :=
  let s := param.subject
  s.usableName param.name ++
    [s.must (!(param.isNamed && param.name.toList.head? == some '_'))
      (.privateNamedParameter param.name),
     s.exclusive ("named", param.isNamed) ("optional", param.isOptional),
     s.implies ("required", param.isRequired) ("named", param.isNamed),
     s.exclusive ("this", param.isField) ("super", param.isSuper),
     s.must (param.defaultValue.isNone || param.mayDefault) .unexpectedValue]

/-- The parameter, if it breaks no rule. -/
def build (param : Param) : Except Fault Param :=
  Rule.enforce param.rules param

/-- The parameter as it is declared. -/
def text (param : Param) : String :=
  (if param.isRequired then "required " else "") ++
    (if param.isField then "this."
     else if param.isSuper then "super."
     else match param.type with
      | some type => type ++ " "
      | none => "") ++
    param.name ++
    (match param.defaultValue with
      | some expression => " = " ++ expression
      | none => "")

end Param

/-- Parameters by group, each group in the order given. -/
structure ParamList where
  required : List Param := []
  optional : List Param := []
  named : List Param := []
  deriving DecidableEq, Repr, Inhabited

namespace ParamList

/-- Sorts parameters into their groups. -/
def ofParams (params : List Param) : ParamList :=
  { required := params.filter fun param => param.group == .required
    optional := params.filter fun param => param.group == .optional
    named := params.filter fun param => param.group == .named }

/-- All parameters, group by group. -/
def toList (list : ParamList) : List Param :=
  list.required ++ list.optional ++ list.named

/-- The names of all parameters, group by group. -/
def names (list : ParamList) : List String :=
  list.toList.map Param.name

/-- The first `this.` or `super.` parameter. -/
def formal? (list : ParamList) : Option String :=
  list.toList.findSome? Param.formal?

/-- Optional positional and named parameters exclude each other, and names are distinct. -/
def rules (owner : Subject) (list : ParamList) : List Rule :=
  owner.must (list.optional.isEmpty || list.named.isEmpty) .mixedOptionalAndNamed ::
    owner.distinct "parameter" [] list.names

/-- There is no `this.` or `super.` parameter; `violation` says how to report the first. -/
def noFormals (owner : Subject) (list : ParamList) (violation : String → Violation) : List Rule :=
  match list.formal? with
  | some formal => [owner.must false (violation formal)]
  | none => []

/-- Some parameters, separated by commas. -/
def groupText (params : List Param) : String :=
  Text.commaSep (params.map Param.text)

/-- The list in parentheses. The bracket of the optional or named group opens in front of its first
parameter. With `multiline` a comma follows the last parameter, which tells a formatter to break
the list. -/
def source (list : ParamList) (multiline : Bool) : String :=
  let comma := if multiline then "," else ""
  let gap := if list.required.isEmpty then "" else ", "
  let inside :=
    if !list.optional.isEmpty then gap ++ "[" ++ groupText list.optional ++ comma ++ "]"
    else if !list.named.isEmpty then gap ++ "\x7b" ++ groupText list.named ++ comma ++ "\x7d"
    else if list.required.isEmpty then "" else comma
  "(" ++ groupText list.required ++ inside ++ ")"

end ParamList

end DartSource
