import DartSource.SourceFile

/-!
# Names and given texts

What a caller puts into a file is of two sorts. **Names** are checked when a node is built: they are
identifiers and no reserved words. Everything else is **given text**, which the library writes down
without looking into it: types, annotations, docs, values, expressions, bodies and references. Each
given text has a role, because what may safely stand in a text depends on where it is put.

The functions here collect the names and the given texts of every kind of node and of a whole file.
-/

namespace DartSource

/-- What a given text is for. -/
inductive TextRole where
  | type
  /-- The upper bound of a type parameter. -/
  | bound
  /-- A type in a clause of a declaration's header. -/
  | supertype
  | annotation
  | doc
  /-- A default or initial value. -/
  | value
  /-- An argument, or the expression of an initializer. -/
  | expression
  /-- The label of an argument. -/
  | label
  /-- The statements of a body. -/
  | block
  /-- The expression of a body. -/
  | arrow
  | uri
  | library
  | generator
  deriving DecidableEq, Repr

/-- A text that is written down as it is given. -/
structure GivenText where
  role : TextRole
  text : String
  deriving DecidableEq, Repr

/-- Texts of one role. -/
def TextRole.each (role : TextRole) (texts : List String) : List GivenText :=
  texts.map fun text => ⟨role, text⟩

theorem TextRole.forall_mem_each {role : TextRole} {texts : List String} {p : GivenText → Prop} :
    (∀ given ∈ role.each texts, p given) ↔ ∀ text ∈ texts, p ⟨role, text⟩ :=
  List.forall_mem_map

/-! ### Signatures -/

namespace Meta

def texts (info : Meta) : List GivenText :=
  TextRole.doc.each info.doc.toList ++ TextRole.annotation.each info.annotations

end Meta

namespace Body

def texts : Body → List GivenText
  | .block text => [⟨.block, text⟩]
  | .arrow expression => [⟨.arrow, expression⟩]

end Body

namespace TypeParam

def texts (param : TypeParam) : List GivenText :=
  TextRole.bound.each param.bound.toList

end TypeParam

namespace Param

def texts (param : Param) : List GivenText :=
  TextRole.type.each param.type.toList ++ TextRole.value.each param.defaultValue.toList

end Param

namespace Callable

def names (callable : Callable) : List String :=
  callable.name :: callable.typeParams.map TypeParam.name ++ callable.params.map Param.name

def texts (callable : Callable) : List GivenText :=
  callable.info.texts ++ TextRole.type.each callable.returns.toList ++
    callable.typeParams.flatMap TypeParam.texts ++ callable.params.flatMap Param.texts ++
    callable.body.toList.flatMap Body.texts

end Callable

/-! ### Members -/

namespace Property

def names (property : Property) : List String :=
  [property.name]

def texts (property : Property) : List GivenText :=
  property.info.texts ++ TextRole.type.each property.type.toList ++
    TextRole.value.each property.defaultValue.toList

end Property

namespace Getter

def names (getter : Getter) : List String :=
  [getter.name]

def texts (getter : Getter) : List GivenText :=
  getter.info.texts ++ TextRole.type.each getter.type.toList ++
    getter.body.toList.flatMap Body.texts

end Getter

namespace Setter

def names (setter : Setter) : List String :=
  [setter.name, setter.param.name]

def texts (setter : Setter) : List GivenText :=
  setter.info.texts ++ setter.param.texts ++ setter.body.toList.flatMap Body.texts

end Setter

namespace Arguments

def texts (arguments : Arguments) : List GivenText :=
  TextRole.expression.each arguments.positional ++
    arguments.named.flatMap fun entry => [⟨.label, entry.1⟩, ⟨.expression, entry.2⟩]

end Arguments

namespace Initializer

def texts : Initializer → List GivenText
  | .assert condition message => TextRole.expression.each (condition :: message.toList)
  | .field _ value => TextRole.expression.each [value]
  | .superCall _ arguments => arguments.texts
  | .redirect _ arguments => arguments.texts

end Initializer

namespace Constructor

def names (constructor : Constructor) : List String :=
  constructor.className :: constructor.name.toList ++ constructor.params.map Param.name ++
    constructor.initializers.filterMap Initializer.target?

def texts (constructor : Constructor) : List GivenText :=
  constructor.info.texts ++ constructor.params.flatMap Param.texts ++
    constructor.initializers.flatMap Initializer.texts ++
    constructor.body.toList.flatMap Body.texts

end Constructor

namespace Member

def names : Member → List String
  | .property member => member.names
  | .getter member => member.names
  | .setter member => member.names
  | .constructor member => member.names
  | .method member => member.callable.names

def texts : Member → List GivenText
  | .property member => member.texts
  | .getter member => member.texts
  | .setter member => member.texts
  | .constructor member => member.texts
  | .method member => member.callable.texts

end Member

/-! ### Declarations -/

namespace ClassDecl

def names (decl : ClassDecl) : List String :=
  decl.name :: decl.typeParams.map TypeParam.name ++ decl.members.flatMap Member.names

def texts (decl : ClassDecl) : List GivenText :=
  decl.info.texts ++ decl.typeParams.flatMap TypeParam.texts ++
    TextRole.supertype.each (decl.superclass.toList ++ decl.mixins ++ decl.interfaces) ++
    decl.members.flatMap Member.texts

end ClassDecl

namespace EnumConstant

def names (constant : EnumConstant) : List String :=
  constant.name :: constant.constructor.toList

def texts (constant : EnumConstant) : List GivenText :=
  constant.info.texts ++ constant.arguments.toList.flatMap Arguments.texts

end EnumConstant

namespace EnumDecl

def names (decl : EnumDecl) : List String :=
  decl.name :: decl.typeParams.map TypeParam.name ++ decl.constants.flatMap EnumConstant.names ++
    decl.members.flatMap Member.names

def texts (decl : EnumDecl) : List GivenText :=
  decl.info.texts ++ decl.typeParams.flatMap TypeParam.texts ++
    TextRole.supertype.each (decl.mixins ++ decl.interfaces) ++
    decl.constants.flatMap EnumConstant.texts ++ decl.members.flatMap Member.texts

end EnumDecl

namespace MixinDecl

def names (decl : MixinDecl) : List String :=
  decl.name :: decl.typeParams.map TypeParam.name ++ decl.members.flatMap Member.names

def texts (decl : MixinDecl) : List GivenText :=
  decl.info.texts ++ decl.typeParams.flatMap TypeParam.texts ++
    TextRole.supertype.each (decl.constraints ++ decl.interfaces) ++
    decl.members.flatMap Member.texts

end MixinDecl

namespace ExtensionDecl

def names (decl : ExtensionDecl) : List String :=
  decl.name.toList ++ decl.typeParams.map TypeParam.name ++ decl.members.flatMap Member.names

def texts (decl : ExtensionDecl) : List GivenText :=
  decl.info.texts ++ decl.typeParams.flatMap TypeParam.texts ++
    TextRole.type.each [decl.target] ++ decl.members.flatMap Member.texts

end ExtensionDecl

namespace VariableDecl

def names (decl : VariableDecl) : List String :=
  [decl.name]

def texts (decl : VariableDecl) : List GivenText :=
  decl.info.texts ++ TextRole.type.each decl.type.toList ++ TextRole.value.each decl.value.toList

end VariableDecl

namespace Declaration

/-- The names of a declaration and of everything in it. -/
def names : Declaration → List String
  | .classDecl decl => decl.names
  | .enumDecl decl => decl.names
  | .mixinDecl decl => decl.names
  | .extensionDecl decl => decl.names
  | .functionDecl decl => decl.callable.names
  | .variable decl => decl.names

/-- The given texts of a declaration and of everything in it. -/
def texts : Declaration → List GivenText
  | .classDecl decl => decl.texts
  | .enumDecl decl => decl.texts
  | .mixinDecl decl => decl.texts
  | .extensionDecl decl => decl.texts
  | .functionDecl decl => decl.callable.texts
  | .variable decl => decl.texts

end Declaration

/-! ### Directives and files -/

namespace PartOf

def texts : PartOf → List GivenText
  | .library name => [⟨.library, name⟩]
  | .reference uri => [⟨.uri, uri.text⟩]

end PartOf

namespace Directive

def names : Directive → List String
  | .importLib directive =>
    directive.qualifier.toList ++ directive.names.shown ++ directive.names.hidden
  | .exportLib directive => directive.names.shown ++ directive.names.hidden
  | .part _ => []
  | .partOf _ => []

def texts : Directive → List GivenText
  | .importLib directive => [⟨.uri, directive.uri.text⟩]
  | .exportLib directive => [⟨.uri, directive.uri.text⟩]
  | .part uri => [⟨.uri, uri.text⟩]
  | .partOf owner => owner.texts

end Directive

namespace RenderOptions

def texts (options : RenderOptions) : List GivenText :=
  TextRole.generator.each options.generator.toList ++ options.partOf.toList.flatMap PartOf.texts

end RenderOptions

namespace SourceFile

/-- All names in a file. -/
def names (file : SourceFile) : List String :=
  file.directives.flatMap Directive.names ++ file.declarations.flatMap Declaration.names

/-- All given texts in a file. -/
def texts (file : SourceFile) : List GivenText :=
  file.options.texts ++ file.directives.flatMap Directive.texts ++
    file.declarations.flatMap Declaration.texts

end SourceFile

end DartSource
