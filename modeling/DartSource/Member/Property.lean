import DartSource.Rule
import DartSource.Signature.Meta

/-!
# Fields

A field of a type. Which keywords go together is settled when the field is built: a constant field
is static and has a value, an external one has none.
-/

namespace DartSource

/-- The declared type with a space behind it, or `var` for a variable that is neither constant nor
final and has no type. -/
def typeOrVar (type : Option String) (isConst isFinal : Bool) : String :=
  match type with
  | some text => text ++ " "
  | none => if isConst || isFinal then "" else "var "

/-- An initial value behind an equals sign, or nothing. -/
def initialText (value : Option String) : String :=
  match value with
  | some expression => " = " ++ expression
  | none => ""

/-- A field. -/
structure Property where
  name : String
  info : Meta := {}
  type : Option String := none
  isStatic : Bool := false
  isConst : Bool := false
  isFinal : Bool := false
  isLate : Bool := false
  isCovariant : Bool := false
  isExternal : Bool := false
  defaultValue : Option String := none
  deriving DecidableEq, Repr, Inhabited

namespace Property

/-- A change to a field. -/
inductive Edit where
  | doc (text : String)
  | annotate (text : String)
  | type (text : String)
  | static
  | const
  | final
  | late
  | covariant
  | external
  | defaultValue (expression : String)
  deriving DecidableEq, Repr

/-- Applies a change. -/
def edit (property : Property) : Edit → Property
  | .doc text => { property with info := property.info.withDoc text }
  | .annotate text => { property with info := property.info.annotate text }
  | .type text => { property with type := some text }
  | .static => { property with isStatic := true }
  | .const => { property with isConst := true }
  | .final => { property with isFinal := true }
  | .late => { property with isLate := true }
  | .covariant => { property with isCovariant := true }
  | .external => { property with isExternal := true }
  | .defaultValue expression => { property with defaultValue := some expression }

/-- What a field must satisfy. -/
def rules (property : Property) : List Rule :=
  let s : Subject := ⟨.property, property.name⟩
  s.usableName property.name ++
    [s.implies ("const", property.isConst) ("static", property.isStatic),
     s.exclusive ("const", property.isConst) ("final", property.isFinal),
     s.exclusive ("const", property.isConst) ("late", property.isLate),
     s.exclusive ("const", property.isConst) ("external", property.isExternal),
     s.exclusive ("late", property.isLate) ("external", property.isExternal),
     s.exclusive ("static", property.isStatic) ("covariant", property.isCovariant),
     s.exclusive ("covariant", property.isCovariant) ("final", property.isFinal),
     s.must (!property.isConst || property.defaultValue.isSome) .missingValue,
     s.must (!property.isExternal || property.defaultValue.isNone) .unexpectedValue]

/-- The field, if it breaks no rule. -/
def build (property : Property) : Except Fault Property :=
  Rule.enforce property.rules property

/-- The line that declares the field. -/
def declaration (property : Property) : String :=
  keywords
      [("external", property.isExternal), ("static", property.isStatic),
       ("covariant", property.isCovariant), ("late", property.isLate),
       ("const", property.isConst), ("final", property.isFinal)] ++
    typeOrVar property.type property.isConst property.isFinal ++ property.name ++
    initialText property.defaultValue ++ ";"

/-- The field with what stands above it. -/
def fragments (property : Property) : List Fragment :=
  property.info.fragments ++ [.line property.declaration]

end Property

end DartSource
