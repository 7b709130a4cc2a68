import DartSource.Record.Modifier
import DartSource.Record.Value
import DartSource.Signature.Body
import DartSource.Signature.Meta
import DartSource.Signature.TypeParam

/-!
# Records

The contents of a description, as plain data. A record says what a node should be and promises
nothing about it: names may be unusable, flags may exclude each other, targets may be unknown.
Lowering a record finds out.

Doc comments with annotations, type parameters and bodies have no rules of their own before they
are part of a node, so records hold them as nodes do.

Records are compared by their contents. Where texts are bound to names, the order of the names
does not matter.
-/

namespace DartSource.Record

/-- Texts by name, each name once. -/
structure Labelled where
  entries : List (String × String) := []
  deriving Repr, Inhabited

instance : BEq Labelled :=
  ⟨fun a b => Assoc.sameBindings (fun x y => x == y) a.entries b.entries⟩

/-! ### Signatures -/

/-- A parameter. -/
structure Param where
  name : String
  type : Option String := none
  modifiers : List Modifier := []
  defaultValue : Option String := none
  deriving BEq, Repr, Inhabited

/-- A function or method. -/
structure Callable where
  name : String
  info : Meta := {}
  returns : Option String := none
  typeParams : List TypeParam := []
  params : List Param := []
  modifiers : List Modifier := []
  multiline : Bool := false
  body : Option Body := none
  deriving BEq, Repr, Inhabited

/-! ### Members -/

/-- A field. Its initial value is an expression or a constant, but not both. -/
structure Property where
  name : String
  info : Meta := {}
  type : Option String := none
  modifiers : List Modifier := []
  defaultValue : Option String := none
  value : Option Value := none
  deriving BEq, Repr, Inhabited

/-- A getter. -/
structure Getter where
  name : String
  info : Meta := {}
  type : Option String := none
  modifiers : List Modifier := []
  body : Option Body := none
  deriving BEq, Repr, Inhabited

/-- A setter. -/
structure Setter where
  name : String
  info : Meta := {}
  param : Param
  modifiers : List Modifier := []
  body : Option Body := none
  deriving BEq, Repr, Inhabited

/-- A call of a constructor. -/
structure Call where
  /-- The name of a named constructor. -/
  constructor : Option String := none
  args : List String := []
  named : Labelled := {}
  deriving BEq, Repr, Inhabited

/-- An entry of an initializer list. -/
inductive Initializer where
  | assert (condition : String) (message : Option String)
  | field (name value : String)
  | superCall (call : Call)
  | redirect (call : Call)
  deriving BEq, Repr, Inhabited

/-- A constructor. -/
structure Constructor where
  /-- The type that it belongs to; the declaration around it if none is given. -/
  className : Option String := none
  /-- The name of a named constructor. -/
  name : Option String := none
  info : Meta := {}
  params : List Param := []
  modifiers : List Modifier := []
  multiline : Bool := false
  initializers : List Initializer := []
  body : Option Body := none
  deriving BEq, Repr, Inhabited

/-- A member of a class, enum, mixin or extension. -/
inductive Member where
  | property (record : Property)
  | getter (record : Getter)
  | setter (record : Setter)
  | constructor (record : Constructor)
  | method (record : Callable)
  deriving BEq, Repr, Inhabited

/-! ### Declarations -/

/-- A class. -/
structure ClassDecl where
  name : String
  info : Meta := {}
  modifiers : List Modifier := []
  typeParams : List TypeParam := []
  superclass : Option String := none
  mixins : List String := []
  interfaces : List String := []
  members : List Member := []
  deriving BEq, Repr, Inhabited

/-- A constant of an enum. Arguments that are given, though there be none, mean that the constant
calls a constructor. -/
structure EnumConstant where
  name : String
  info : Meta := {}
  constructor : Option String := none
  args : Option (List String) := none
  named : Labelled := {}
  deriving BEq, Repr, Inhabited

/-- An enum. -/
structure EnumDecl where
  name : String
  info : Meta := {}
  typeParams : List TypeParam := []
  mixins : List String := []
  interfaces : List String := []
  constants : List EnumConstant
  members : List Member := []
  deriving BEq, Repr, Inhabited

/-- A mixin. -/
structure MixinDecl where
  name : String
  info : Meta := {}
  modifiers : List Modifier := []
  typeParams : List TypeParam := []
  constraints : List String := []
  interfaces : List String := []
  members : List Member := []
  deriving BEq, Repr, Inhabited

/-- An extension. -/
structure ExtensionDecl where
  name : Option String := none
  target : String
  info : Meta := {}
  typeParams : List TypeParam := []
  members : List Member := []
  deriving BEq, Repr, Inhabited

/-- A top-level variable. Its initial value is an expression or a constant, but not both. -/
structure VariableDecl where
  name : String
  info : Meta := {}
  type : Option String := none
  modifiers : List Modifier := []
  defaultValue : Option String := none
  value : Option Value := none
  deriving BEq, Repr, Inhabited

/-- A top-level declaration. -/
inductive Declaration where
  | classDecl (record : ClassDecl)
  | enumDecl (record : EnumDecl)
  | mixinDecl (record : MixinDecl)
  | extensionDecl (record : ExtensionDecl)
  | functionDecl (record : Callable)
  | variable (record : VariableDecl)
  deriving BEq, Repr, Inhabited

/-! ### Directives -/

/-- A file within a package, its path as written. -/
structure AssetRef where
  package : String
  path : String
  deriving BEq, Repr, Inhabited

/-- What a directive points at: a reference, or an asset that is still to be resolved. -/
inductive Target where
  | uri (text : String)
  | asset (asset : AssetRef)
  deriving BEq, Repr, Inhabited

/-- An import. -/
structure Import where
  target : Target
  qualifier : Option String := none
  modifiers : List Modifier := []
  shown : List String := []
  hidden : List String := []
  deriving BEq, Repr, Inhabited

/-- A directive. -/
inductive Directive where
  | importLib (record : Import)
  | exportLib (target : Target) (shown hidden : List String)
  | part (target : Target)
  deriving BEq, Repr, Inhabited

/-- The owner of a part file. -/
inductive PartOf where
  /-- By its library name. -/
  | library (name : String)
  /-- By reference. -/
  | uri (text : String)
  /-- By name if the owner declares one, by reference otherwise. -/
  | asset (asset : AssetRef)
  deriving BEq, Repr, Inhabited

/-! ### Descriptions -/

/-- How the file is laid out, and where it stands. -/
structure Output where
  generator : Option String := none
  /-- Spaces for each level; none stand for tabs. -/
  indent : Option Nat := none
  partOf : Option PartOf := none
  /-- The file that is described. -/
  asset : Option AssetRef := none
  deriving BEq, Repr, Inhabited

/-- The description of a file. -/
structure Library where
  output : Output := {}
  directives : List Directive := []
  declarations : List Declaration := []
  deriving BEq, Repr, Inhabited

end DartSource.Record
