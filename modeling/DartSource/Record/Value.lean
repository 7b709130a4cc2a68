import DartSource.Const.Converters

/-!
# Constants in descriptions

A constant as a description writes it: scalars and lists directly, enum values, custom values and
maps as small tables. It differs from a `Const` in one thing: a custom value names a type, which
need not have a converter. Making it a `Const` looks every such name up, the name of a value before
the names inside its fields.
-/

namespace DartSource.Record

/-- A constant value. -/
inductive Value where
  | null
  | bool (value : Bool)
  | int (value : Int)
  | double (value : Double)
  | text (value : String)
  | list (items : List Value)
  | enumValue (type value : String)
  /-- A value of a named type, with its fields. -/
  | custom (type : String) (fields : List (String × Value))
  | map (entries : List (Value × Value))
  deriving Repr, Inhabited

namespace Value

mutual

/-- The same constant. Doubles are compared as numbers, and the order of the fields of a custom
value does not matter. -/
def same : Value → Value → Bool
  | .null, .null => true
  | .bool a, .bool b => a == b
  | .int a, .int b => a == b
  | .double a, .double b => a.numEq b
  | .text a, .text b => a == b
  | .list a, .list b => sameItems a b
  | .enumValue a b, .enumValue c d => a == c && b == d
  | .custom a fields, .custom b others =>
    a == b && fields.length == others.length && sameFields fields others
  | .map a, .map b => sameEntries a b
  | _, _ => false

/-- The same items in the same order. -/
def sameItems : List Value → List Value → Bool
  | [], [] => true
  | a :: rest, b :: others => same a b && sameItems rest others
  | _, _ => false

/-- Every field has its counterpart among the others. -/
def sameFields : List (String × Value) → List (String × Value) → Bool
  | [], _ => true
  | (name, value) :: rest, others =>
    (match Assoc.get? name others with
      | some other => same value other
      | none => false) && sameFields rest others

/-- The same entries in the same order. -/
def sameEntries : List (Value × Value) → List (Value × Value) → Bool
  | [], [] => true
  | (key, value) :: rest, (otherKey, other) :: others =>
    same key otherKey && same value other && sameEntries rest others
  | _, _ => false

end

instance : BEq Value := ⟨same⟩

mutual

/-- The constant with its type names looked up among the converters. -/
def toConst (converters : Converters) : Value → Except Fault Const
  | .null => .ok .null
  | .bool value => .ok (.bool value)
  | .int value => .ok (.int value)
  | .double value => .ok (.double value)
  | .text value => .ok (.text value)
  | .list items => do
    let items ← toConsts converters items
    return .list items
  | .enumValue type value => .ok (.enumValue type value)
  | .custom type fields =>
    match converters.findTag? type with
    | none => .error (.lookup (.missingConverter type))
    | some tag => do
      let fields ← toFields converters fields
      return .custom tag fields
  | .map entries => do
    let entries ← toEntries converters entries
    return .map entries

/-- The items of a list, looked up in turn. -/
def toConsts (converters : Converters) : List Value → Except Fault (List Const)
  | [] => .ok []
  | item :: rest => do
    let first ← toConst converters item
    let more ← toConsts converters rest
    return first :: more

/-- The fields of a custom value, looked up in turn. -/
def toFields (converters : Converters) :
    List (String × Value) → Except Fault (List (String × Const))
  | [] => .ok []
  | (name, value) :: rest => do
    let first ← toConst converters value
    let more ← toFields converters rest
    return (name, first) :: more

/-- The entries of a map, looked up in turn, key before value. -/
def toEntries (converters : Converters) :
    List (Value × Value) → Except Fault (List (Const × Const))
  | [] => .ok []
  | (key, value) :: rest => do
    let firstKey ← toConst converters key
    let firstValue ← toConst converters value
    let more ← toEntries converters rest
    return (firstKey, firstValue) :: more

end

/-- The expression for a constant. -/
def render (converters : Converters) (value : Value) : Except Fault String := do
  let const ← value.toConst converters
  const.render converters

end Value

end DartSource.Record
