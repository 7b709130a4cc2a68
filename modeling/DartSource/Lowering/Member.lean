import DartSource.Lowering.Flags
import DartSource.Member.Basic

/-!
# Lowering members

A record becomes the draft of a node, field by field and flag by flag, and the draft is built. The
records inside it are lowered first, in the order in which they stand, so the failure that is
reported is the first one on the way through the description.
-/

namespace DartSource.Lowering

/-- A node that is built, its fault reported at the path of its record. -/
def atPath (path : RecordPath) : Except Fault α → Except Failure α
  | .ok node => .ok node
  | .error fault => .error (.build path fault)

/-- Lowers the records of a list from the given index on, each at its own path. -/
def eachFrom (path : RecordPath) (name : String) (lower : RecordPath → α → Except Failure β)
    (index : Nat) : List α → Except Failure (List β)
  | [] => .ok []
  | record :: rest => do
    let node ← lower (path.item name index) record
    let nodes ← eachFrom path name lower (index + 1) rest
    return node :: nodes

/-- Lowers the records of a list, each at its own path. -/
def each (path : RecordPath) (name : String) (lower : RecordPath → α → Except Failure β)
    (records : List α) : Except Failure (List β) :=
  eachFrom path name lower 0 records

/-! ### Signatures -/

/-- A parameter. -/
def param (path : RecordPath) (record : Record.Param) : Except Failure Param := do
  Acceptance.aParameter.check path record.modifiers
  atPath path <| Param.build
    { name := record.name
      type := record.type
      isNamed := decide (.named ∈ record.modifiers)
      isRequired := decide (.required ∈ record.modifiers)
      isOptional := decide (.optional ∈ record.modifiers)
      isField := decide (.this ∈ record.modifiers)
      isSuper := decide (.super ∈ record.modifiers)
      defaultValue := record.defaultValue }

/-- The parameters of a record. -/
def params (path : RecordPath) (records : List Record.Param) : Except Failure (List Param) :=
  each path "params" param records

/-- The draft of a callable, with its parameters built. -/
def callable (path : RecordPath) (record : Record.Callable) : Except Failure Callable := do
  let params ← params path record.params
  return {
    name := record.name
    info := record.info
    returns := record.returns
    typeParams := record.typeParams
    params
    multiline := record.multiline
    isExternal := decide (.external ∈ record.modifiers)
    isAsync := decide (.async ∈ record.modifiers)
    isGenerator := decide (.generator ∈ record.modifiers)
    body := record.body }

/-! ### Values -/

/-- The initial value of a record: its expression, or the rendering of its constant. -/
def initialValue (converters : Converters) (path : RecordPath) :
    Option String → Option Record.Value → Except Failure (Option String)
  | some _, some _ => .error (.record path .twoValues)
  | some expression, none => .ok (some expression)
  | none, some value => do
    let expression ← atPath (path.field "value") (value.render converters)
    return some expression
  | none, none => .ok none

/-- The arguments of a call. -/
def arguments (args : List String) (named : Record.Labelled) : Arguments :=
  { positional := args, named := named.entries }

/-- An entry of an initializer list. -/
def initializer : Record.Initializer → Initializer
  | .assert condition message => .assert condition message
  | .field name value => .field name value
  | .superCall call => .superCall call.constructor (arguments call.args call.named)
  | .redirect call => .redirect call.constructor (arguments call.args call.named)

/-! ### Members -/

/-- A field. -/
def property (converters : Converters) (path : RecordPath) (record : Record.Property) :
    Except Failure Property := do
  Acceptance.aProperty.check path record.modifiers
  let defaultValue ← initialValue converters path record.defaultValue record.value
  atPath path <| Property.build
    { name := record.name
      info := record.info
      type := record.type
      isStatic := decide (.static ∈ record.modifiers)
      isConst := decide (.const ∈ record.modifiers)
      isFinal := decide (.final ∈ record.modifiers)
      isLate := decide (.late ∈ record.modifiers)
      isCovariant := decide (.covariant ∈ record.modifiers)
      isExternal := decide (.external ∈ record.modifiers)
      defaultValue }

/-- A getter. -/
def getter (path : RecordPath) (record : Record.Getter) : Except Failure Getter := do
  Acceptance.aGetter.check path record.modifiers
  atPath path <| Getter.build
    { name := record.name
      info := record.info
      type := record.type
      isStatic := decide (.static ∈ record.modifiers)
      isExternal := decide (.external ∈ record.modifiers)
      isAsync := decide (.async ∈ record.modifiers)
      isGenerator := decide (.generator ∈ record.modifiers)
      body := record.body }

/-- A setter. -/
def setter (path : RecordPath) (record : Record.Setter) : Except Failure Setter := do
  Acceptance.aSetter.check path record.modifiers
  let param ← param (path.field "param") record.param
  atPath path <| Setter.build
    { name := record.name
      param
      info := record.info
      isStatic := decide (.static ∈ record.modifiers)
      isExternal := decide (.external ∈ record.modifiers)
      body := record.body }

/-- A constructor inside the declaration of `owner`. -/
def constructor (owner : String) (path : RecordPath) (record : Record.Constructor) :
    Except Failure Constructor := do
  Acceptance.aConstructor.check path record.modifiers
  let params ← params path record.params
  atPath path <| Constructor.build
    { className := record.className.getD owner
      name := record.name
      info := record.info
      params
      multiline := record.multiline
      isConst := decide (.const ∈ record.modifiers)
      isFactory := decide (.factory ∈ record.modifiers)
      isExternal := decide (.external ∈ record.modifiers)
      initializers := record.initializers.map initializer
      body := record.body }

/-- A method. -/
def method (path : RecordPath) (record : Record.Callable) : Except Failure Method := do
  Acceptance.aMethod.check path record.modifiers
  let callable ← callable path record
  atPath path <| Method.build
    { callable
      isOverride := decide (.override ∈ record.modifiers)
      isStatic := decide (.static ∈ record.modifiers) }

/-- A member inside the declaration of `owner`. -/
def member (converters : Converters) (owner : String) (path : RecordPath) :
    Record.Member → Except Failure Member
  | .property record => do
    let node ← property converters path record
    return .property node
  | .getter record => do
    let node ← getter path record
    return .getter node
  | .setter record => do
    let node ← setter path record
    return .setter node
  | .constructor record => do
    let node ← constructor owner path record
    return .constructor node
  | .method record => do
    let node ← method path record
    return .method node

/-- The members of the declaration of `owner`. -/
def members (converters : Converters) (owner : String) (path : RecordPath)
    (records : List Record.Member) : Except Failure (List Member) :=
  each path "members" (member converters owner) records

end DartSource.Lowering
