import DartSource.Declaration.Supertype

/-!
# Enums

An enum lists its constants before its members. A constant may pass arguments to a constructor of
the enum, so an enum with such constants has a constructor, and as its values are constants its
fields are final and its constructors constant.
-/

namespace DartSource

/-- A constant of an enum. -/
structure EnumConstant where
  name : String
  info : Meta := {}
  /-- The named constructor that the constant calls. -/
  constructor : Option String := none
  /-- The arguments, for a constant that calls a constructor. -/
  arguments : Option Arguments := none
  deriving DecidableEq, Repr, Inhabited

namespace EnumConstant

/-- A change to a constant. -/
inductive Edit where
  | doc (text : String)
  | annotate (text : String)
  | arguments (arguments : Arguments)
  | namedConstructor (name : String) (arguments : Arguments)
  deriving DecidableEq, Repr

/-- Applies a change. Arguments by themselves leave a constructor's name in place. -/
def edit (constant : EnumConstant) : Edit → EnumConstant
  | .doc text => { constant with info := constant.info.withDoc text }
  | .annotate text => { constant with info := constant.info.annotate text }
  | .arguments arguments => { constant with arguments := some arguments }
  | .namedConstructor name arguments =>
    { constant with constructor := some name, arguments := some arguments }

/-- What a constant must satisfy. -/
def rules (constant : EnumConstant) : List Rule :=
  let s : Subject := ⟨.enumConstant, constant.name⟩
  s.usableName constant.name ++ s.usableName? constant.constructor

/-- The constant, if it breaks no rule. -/
def build (constant : EnumConstant) : Except Fault EnumConstant :=
  Rule.enforce constant.rules constant

/-- The constant calls a constructor. -/
def hasArguments (constant : EnumConstant) : Bool :=
  constant.arguments.isSome

/-- The text of a constant. -/
def text (constant : EnumConstant) : String :=
  match constant.arguments with
  | some arguments => Initializer.callText constant.name constant.constructor arguments
  | none => constant.name

end EnumConstant

/-- An enum. -/
structure EnumDecl where
  name : String
  info : Meta := {}
  typeParams : List TypeParam := []
  mixins : List String := []
  interfaces : List String := []
  constants : List EnumConstant := []
  members : List Member := []
  deriving DecidableEq, Repr, Inhabited

namespace EnumDecl

/-- A change to an enum. -/
inductive Edit where
  | doc (text : String)
  | annotate (text : String)
  | typeParam (param : TypeParam)
  | mixin (type : String)
  | interface (type : String)
  | constant (constant : EnumConstant)
  /-- Constants without arguments, by name. They are built on the spot. -/
  | values (names : List String)
  | member (member : Member)
  deriving DecidableEq, Repr

/-- Applies a change. Only a change that builds constants can fail. -/
def edit (decl : EnumDecl) : Edit → Except Fault EnumDecl
  | .doc text => .ok { decl with info := decl.info.withDoc text }
  | .annotate text => .ok { decl with info := decl.info.annotate text }
  | .typeParam param => .ok { decl with typeParams := decl.typeParams ++ [param] }
  | .mixin type => .ok { decl with mixins := decl.mixins ++ [type] }
  | .interface type => .ok { decl with interfaces := decl.interfaces ++ [type] }
  | .constant constant => .ok { decl with constants := decl.constants ++ [constant] }
  | .values names => do
    let constants ← names.mapM fun name => ({ name } : EnumConstant).build
    return { decl with constants := decl.constants ++ constants }
  | .member member => .ok { decl with members := decl.members ++ [member] }

/-- What an enum demands of one member. -/
def memberRules (s : Subject) : Member → List Rule
  | .property member =>
    [s.must (member.isStatic || member.isFinal) (.illegalMember "an enum" "mutable fields")]
  | .constructor member =>
    [s.must (member.isConst || member.isFactory)
      (.illegalMember "an enum" "non-const generative constructors")]
  | _ => []

/-- What an enum must satisfy. -/
def rules (decl : EnumDecl) : List Rule :=
  let s : Subject := ⟨.enumDecl, decl.name⟩
  s.usableName decl.name ++ TypeParam.rules decl.typeParams ++
    [s.must (!decl.constants.isEmpty) .emptyEnum] ++
    s.distinct "constant" [] (decl.constants.map EnumConstant.name) ++
    [s.must (decl.members.any Member.isConstructor ||
        !decl.constants.any EnumConstant.hasArguments) .missingEnumConstructor] ++
    decl.members.flatMap (memberRules s) ++
    Supertype.notSelf s decl.name "with" decl.mixins ++
    Supertype.notSelf s decl.name "implements" decl.interfaces ++
    Supertype.disjoint s decl.mixins decl.interfaces ++
    Supertype.ownConstructors s decl.name decl.members

/-- The enum, if it breaks no rule. -/
def build (decl : EnumDecl) : Except Fault EnumDecl :=
  Rule.enforce decl.rules decl

/-- The line that opens the enum. -/
def header (decl : EnumDecl) : String :=
  "enum " ++ decl.name ++ TypeParam.listText decl.typeParams ++
    Supertype.clause "with" decl.mixins ++ Supertype.clause "implements" decl.interfaces

/-- The constants, each with what stands above it. A comma follows each but the last, which is
followed by `close`. -/
def constantFragments (close : String) : List EnumConstant → List Fragment
  | [] => []
  | [last] => last.info.fragments ++ [.line (last.text ++ close)]
  | first :: second :: rest =>
    first.info.fragments ++ .line (first.text ++ ",") :: constantFragments close (second :: rest)

/-- The constants, then the members behind a semicolon and an empty line. -/
def bodyFragments (decl : EnumDecl) : List Fragment :=
  if decl.members.isEmpty then constantFragments "" decl.constants
  else
    constantFragments ";" decl.constants ++ .blank :: Member.bodyFragments decl.members

/-- The enum with what stands above it. -/
def fragments (decl : EnumDecl) : List Fragment :=
  decl.info.fragments ++ [Fragment.braced decl.header decl.bodyFragments]

end EnumDecl

end DartSource
