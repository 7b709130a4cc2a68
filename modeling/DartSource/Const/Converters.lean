import DartSource.Assoc
import DartSource.Const.Value
import DartSource.Fault
import DartSource.Number.Shortest
import DartSource.Text.Blank
import DartSource.Text.Quoted

/-!
# Rendering constants

A constant is rendered as a Dart expression. Custom values go through a register of converters, one
for each tag: a converter receives the rendered fields of the value, each name once, in the order
in which the names first appear and with the value given last. The tag is looked up before any
field is rendered, so of two missing converters the outer one is reported.
-/

namespace DartSource

/-- Writes a custom value, given its rendered fields. -/
abbrev Converter := List (String × String) → String

namespace Converter

/-- Rendered fields as named arguments. -/
def namedArgs (fields : List (String × String)) : String :=
  Text.commaSep (fields.map fun field => field.1 ++ ": " ++ field.2)

end Converter

/-- The registered converters, by tag, in order of registration. -/
structure Converters where
  entries : List (String × Converter) := []
  deriving Inhabited

namespace Converters

/-- The converter of a tag. -/
def get? (converters : Converters) (tag : String) : Option Converter :=
  Assoc.get? tag converters.entries

/-- A tag has a converter. -/
def contains (converters : Converters) (tag : String) : Bool :=
  (converters.get? tag).isSome

/-- The registered tags, in order. -/
def tags (converters : Converters) : List String :=
  converters.entries.map Prod.fst

/-- The registered tag with the given name. -/
def findTag? (converters : Converters) (name : String) : Option String :=
  converters.tags.find? (· == name)

/-- Registers a converter. A tag keeps its first converter: a second one is refused. -/
def register (converters : Converters) (tag : String) (converter : Converter) :
    Except Fault Converters :=
  if converters.contains tag then .error (.lookup (.duplicateConverter tag))
  else .ok ⟨converters.entries ++ [(tag, converter)]⟩

/-- Registers converters one after the other, up to the first that is refused. -/
def ofList (entries : List (String × Converter)) : Except Fault Converters :=
  entries.foldlM (fun converters entry => converters.register entry.1 entry.2) {}

/-- The register as a diagnostic text, which lists its tags. -/
def describe (converters : Converters) : String :=
  "ConverterRegistry \x7b tags: [" ++
    Text.commaSep (converters.tags.map fun tag => "TypeTag(\"" ++ tag ++ "\")") ++ "] \x7d"

end Converters

/-- The expression for a double. The values without digits have names in the core library. -/
def Double.expression (d : Double) : String :=
  if d.isNaN then "double.nan"
  else if d.isInfinite then
    if d.isNegative then "double.negativeInfinity" else "double.infinity"
  else d.text

namespace Const

mutual

/-- The expression for a constant. -/
def render (converters : Converters) : Const → Except Fault String
  | .null => .ok "null"
  | .bool value => .ok (if value then "true" else "false")
  | .int value => .ok (toString value)
  | .double value => .ok value.expression
  | .text value => .ok (Text.quote value)
  | .list items => do
    let parts ← renderItems converters items
    return "[" ++ Text.commaSep parts ++ "]"
  | .map entries => do
    let parts ← renderEntries converters entries
    return "\x7b" ++ Text.commaSep parts ++ "\x7d"
  | .enumValue type value => .ok (type ++ "." ++ value)
  | .custom tag fields =>
    match converters.get? tag with
    | none => .error (.lookup (.missingConverter tag))
    | some converter => do
      let rendered ← renderFields converters fields
      return converter (Assoc.ofList rendered)

/-- The expressions for the items of a list. -/
def renderItems (converters : Converters) : List Const → Except Fault (List String)
  | [] => .ok []
  | item :: rest => do
    let text ← render converters item
    let more ← renderItems converters rest
    return text :: more

/-- The entries of a map, key before value. -/
def renderEntries (converters : Converters) :
    List (Const × Const) → Except Fault (List String)
  | [] => .ok []
  | (key, value) :: rest => do
    let keyText ← render converters key
    let valueText ← render converters value
    let more ← renderEntries converters rest
    return (keyText ++ ": " ++ valueText) :: more

/-- The fields of a custom value, each with its expression. -/
def renderFields (converters : Converters) :
    List (String × Const) → Except Fault (List (String × String))
  | [] => .ok []
  | (name, field) :: rest => do
    let text ← render converters field
    let more ← renderFields converters rest
    return (name, text) :: more

end

end Const

end DartSource
