import DartSource.Location.Asset

/-!
# Faults

Why a node could not be built or a name could not be found. A **structural** fault says which rule
of the language a node would break, and names the node; a **lookup** fault says what is unknown.
Faults are values; `message` is the only place where they become text.
-/

namespace DartSource

/-- The kinds of node that rules speak about. -/
inductive NodeKind where
  | parameter
  | typeParameter
  | property
  | getter
  | setter
  | method
  | constructor
  | classDecl
  | enumDecl
  | enumConstant
  | mixinDecl
  | extensionDecl
  | functionDecl
  | variable
  | directive
  deriving DecidableEq, Repr, Inhabited

/-- The name of a kind of node in messages. -/
def NodeKind.text : NodeKind → String
  | .parameter => "parameter"
  | .typeParameter => "type parameter"
  | .property => "property"
  | .getter => "getter"
  | .setter => "setter"
  | .method => "method"
  | .constructor => "constructor"
  | .classDecl => "class"
  | .enumDecl => "enum"
  | .enumConstant => "enum constant"
  | .mixinDecl => "mixin"
  | .extensionDecl => "extension"
  | .functionDecl => "function"
  | .variable => "variable"
  | .directive => "directive"

/-- The ways in which a node can break a rule. -/
inductive Violation where
  /-- A name that is no identifier. -/
  | invalidIdentifier (name : String)
  /-- A named parameter whose name is private to the library. -/
  | privateNamedParameter (name : String)
  /-- A name that is a reserved word. -/
  | reservedWord (name : String)
  /-- Two keywords that exclude each other. -/
  | conflict (first second : String)
  /-- A keyword that needs another one. -/
  | requires (keyword other : String)
  /-- No initial value where one is needed. -/
  | missingValue
  /-- An initial value where none may be. -/
  | unexpectedValue
  /-- No body where one is needed. -/
  | missingBody
  /-- A body where none may be. -/
  | unexpectedBody
  /-- A clause without a type. -/
  | missingType (clause : String)
  /-- A name given twice. -/
  | duplicate (what name : String)
  /-- Optional positional and named parameters in one list. -/
  | mixedOptionalAndNamed
  /-- A `this.` or `super.` parameter of something that is no constructor. -/
  | formalOutsideConstructor (formal : String)
  /-- A setter whose parameter is not plain. -/
  | setterParameter
  /-- A type that names itself as a supertype. -/
  | selfReference (name clause : String)
  /-- A type that is both mixed in and implemented. -/
  | mixinAndInterface (name : String)
  /-- A redirection beside other initializers or a body. -/
  | redirectNotAlone
  /-- More than one call of a superclass constructor. -/
  | multipleSuperCalls
  /-- A `this.` or `super.` parameter where the constructor cannot take one. -/
  | misplacedFormal (formal constructor : String)
  /-- An initializer list where none may be. -/
  | unexpectedInitializers (constructor : String)
  /-- A constructor that belongs to another type. -/
  | foreignConstructor (expected found : String)
  /-- An enum without constants. -/
  | emptyEnum
  /-- Enum constants with arguments but no constructor to take them. -/
  | missingEnumConstructor
  /-- A member that the declaration cannot have. -/
  | illegalMember (owner member : String)
  /-- A modifier that the declaration cannot have. -/
  | illegalModifier (modifier owner : String)
  deriving DecidableEq, Repr, Inhabited

/-- The rule that was broken, in words. -/
def Violation.rule : Violation → String
  | .invalidIdentifier name => "'" ++ name ++ "' is not a valid identifier"
  | .privateNamedParameter name => "named parameter '" ++ name ++ "' cannot be private"
  | .reservedWord name => "'" ++ name ++ "' is a reserved word"
  | .conflict first second => "'" ++ first ++ "' cannot be combined with '" ++ second ++ "'"
  | .requires keyword other => "'" ++ keyword ++ "' requires '" ++ other ++ "'"
  | .missingValue => "an initial value is required"
  | .unexpectedValue => "an initial value is not allowed here"
  | .missingBody => "a body is required"
  | .unexpectedBody => "a body is not allowed here"
  | .missingType clause => "the " ++ clause ++ " clause needs a type"
  | .duplicate what name => "duplicate " ++ what ++ " '" ++ name ++ "'"
  | .mixedOptionalAndNamed => "optional positional and named parameters cannot be mixed"
  | .formalOutsideConstructor formal => "'" ++ formal ++ "' is only allowed in constructors"
  | .setterParameter => "a setter takes exactly one required positional parameter"
  | .selfReference name clause =>
    "'" ++ name ++ "' cannot reference itself in its " ++ clause ++ " clause"
  | .mixinAndInterface name => "'" ++ name ++ "' appears in both the with and implements clauses"
  | .redirectNotAlone => "a redirecting constructor cannot have other initializers or a body"
  | .multipleSuperCalls => "at most one super initializer is allowed"
  | .misplacedFormal formal constructor =>
    "'" ++ formal ++ "' is not allowed in a " ++ constructor ++ " constructor"
  | .unexpectedInitializers constructor =>
    constructor ++ " constructors cannot have an initializer list"
  | .foreignConstructor expected found =>
    "constructor of '" ++ found ++ "' declared inside '" ++ expected ++ "'"
  | .emptyEnum => "an enum needs at least one constant"
  | .missingEnumConstructor => "enum constants pass arguments but no constructor is declared"
  | .illegalMember owner member => owner ++ " cannot declare " ++ member
  | .illegalModifier modifier owner => "'" ++ modifier ++ "' is not allowed on " ++ owner

/-- What could not be found, or was there already. -/
inductive Lookup where
  /-- No converter for the tag. -/
  | missingConverter (tag : String)
  /-- A second converter for the tag. -/
  | duplicateConverter (tag : String)
  /-- An asset that is not among the known ones. -/
  | unknownAsset (asset : Asset)
  /-- An asset that the referring file, if there is one, has no way to refer to. -/
  | unreachableAsset (asset : Asset) (origin : Option Asset)
  /-- An asset whose library name is not recorded. -/
  | unknownLibrary (asset : Asset)
  deriving DecidableEq, Repr, Inhabited

/-- The failed lookup in words. -/
def Lookup.message : Lookup → String
  | .missingConverter tag => "no converter registered for type tag '" ++ tag ++ "'"
  | .duplicateConverter tag => "a converter is already registered for type tag '" ++ tag ++ "'"
  | .unknownAsset asset => "unknown asset " ++ asset.text
  | .unreachableAsset asset origin =>
    "asset " ++ asset.text ++ " cannot be referenced from " ++
      (match origin with
        | some file => file.text
        | none => "outside the package")
  | .unknownLibrary asset => "the library name of " ++ asset.text ++ " is unknown"

/-- Why something could not be built or rendered. -/
inductive Fault where
  /-- The node of that kind and name breaks a rule. -/
  | structural (kind : NodeKind) (name : String) (violation : Violation)
  /-- Something could not be found. -/
  | lookup (cause : Lookup)
  deriving DecidableEq, Repr, Inhabited

/-- The whole message of a fault. -/
def Fault.message : Fault → String
  | .structural kind name violation =>
    "invalid " ++ kind.text ++ " '" ++ name ++ "': " ++ violation.rule
  | .lookup cause => cause.message

end DartSource
