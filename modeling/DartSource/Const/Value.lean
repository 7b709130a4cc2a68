import DartSource.Number.Double

/-!
# Constant values

The values that a description may give to a variable: the scalars, lists and maps of Dart, values
of enums by name, and custom values, which carry named fields and are written by a converter that
is registered for their tag.
-/

namespace DartSource

/-- A compile-time constant. -/
inductive Const where
  | null
  | bool (value : Bool)
  | int (value : Int)
  | double (value : Double)
  | text (value : String)
  | list (items : List Const)
  | map (entries : List (Const × Const))
  /-- `type.value` -/
  | enumValue (type value : String)
  /-- A value that the converter for `tag` writes from its fields. -/
  | custom (tag : String) (fields : List (String × Const))
  deriving Repr, Inhabited

end DartSource
