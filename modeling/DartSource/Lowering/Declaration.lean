import DartSource.Declaration.Basic
import DartSource.Lowering.Member

/-!
# Lowering declarations

The keywords of a declaration are checked before the records inside it are looked at. An enum
lowers its constants before its members.
-/

namespace DartSource.Lowering

/-- A class. -/
def classDecl (converters : Converters) (path : RecordPath) (record : Record.ClassDecl) :
    Except Failure ClassDecl := do
  Acceptance.aClass.check path record.modifiers
  let modifier ← limit? path record.modifiers
  let members ← members converters record.name path record.members
  atPath path <| ClassDecl.build
    { name := record.name
      info := record.info
      isAbstract := decide (.abstract ∈ record.modifiers)
      modifier
      isMixin := decide (.mixin ∈ record.modifiers)
      typeParams := record.typeParams
      superclass := record.superclass
      mixins := record.mixins
      interfaces := record.interfaces
      members }

/-- A constant of an enum. It calls a constructor if it names one or has arguments, though the
list of them be empty. -/
def enumConstant (path : RecordPath) (record : Record.EnumConstant) :
    Except Failure EnumConstant :=
  let calls := record.constructor.isSome || record.args.isSome || !record.named.entries.isEmpty
  atPath path <| EnumConstant.build
    { name := record.name
      info := record.info
      constructor := record.constructor
      arguments :=
        if calls then some (arguments (record.args.getD []) record.named) else none }

/-- An enum. -/
def enumDecl (converters : Converters) (path : RecordPath) (record : Record.EnumDecl) :
    Except Failure EnumDecl := do
  let constants ← each path "constants" enumConstant record.constants
  let members ← members converters record.name path record.members
  atPath path <| EnumDecl.build
    { name := record.name
      info := record.info
      typeParams := record.typeParams
      mixins := record.mixins
      interfaces := record.interfaces
      constants
      members }

/-- A mixin. -/
def mixinDecl (converters : Converters) (path : RecordPath) (record : Record.MixinDecl) :
    Except Failure MixinDecl := do
  Acceptance.aMixin.check path record.modifiers
  let modifier ← limit? path record.modifiers
  let members ← members converters record.name path record.members
  atPath path <| MixinDecl.build
    { name := record.name
      info := record.info
      modifier
      typeParams := record.typeParams
      constraints := record.constraints
      interfaces := record.interfaces
      members }

/-- An extension. Without a name, its target counts as the owner of its members. -/
def extensionDecl (converters : Converters) (path : RecordPath)
    (record : Record.ExtensionDecl) : Except Failure ExtensionDecl := do
  let members ← members converters (record.name.getD record.target) path record.members
  atPath path <| ExtensionDecl.build
    { target := record.target
      name := record.name
      info := record.info
      typeParams := record.typeParams
      members }

/-- A function. -/
def functionDecl (path : RecordPath) (record : Record.Callable) :
    Except Failure FunctionDecl := do
  Acceptance.aFunction.check path record.modifiers
  let callable ← callable path record
  atPath path <| FunctionDecl.build { callable }

/-- A variable. -/
def variableDecl (converters : Converters) (path : RecordPath) (record : Record.VariableDecl) :
    Except Failure VariableDecl := do
  Acceptance.aVariable.check path record.modifiers
  let value ← initialValue converters path record.defaultValue record.value
  atPath path <| VariableDecl.build
    { name := record.name
      info := record.info
      type := record.type
      isExternal := decide (.external ∈ record.modifiers)
      isLate := decide (.late ∈ record.modifiers)
      isConst := decide (.const ∈ record.modifiers)
      isFinal := decide (.final ∈ record.modifiers)
      value }

/-- A declaration. -/
def declaration (converters : Converters) (path : RecordPath) :
    Record.Declaration → Except Failure Declaration
  | .classDecl record => do
    let node ← classDecl converters path record
    return .classDecl node
  | .enumDecl record => do
    let node ← enumDecl converters path record
    return .enumDecl node
  | .mixinDecl record => do
    let node ← mixinDecl converters path record
    return .mixinDecl node
  | .extensionDecl record => do
    let node ← extensionDecl converters path record
    return .extensionDecl node
  | .functionDecl record => do
    let node ← functionDecl path record
    return .functionDecl node
  | .variable record => do
    let node ← variableDecl converters path record
    return .variable node

end DartSource.Lowering
