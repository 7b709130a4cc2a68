import DartSource.Declaration.Supertype

/-!
# Mixins
-/

namespace DartSource

/-- A mixin. -/
structure MixinDecl where
  name : String
  info : Meta := {}
  modifier : Option ClassModifier := none
  typeParams : List TypeParam := []
  /-- The types that a class must have to use the mixin. -/
  constraints : List String := []
  interfaces : List String := []
  members : List Member := []
  deriving DecidableEq, Repr, Inhabited

namespace MixinDecl

/-- A change to a mixin. -/
inductive Edit where
  | doc (text : String)
  | annotate (text : String)
  | modifier (modifier : ClassModifier)
  | typeParam (param : TypeParam)
  | constraint (type : String)
  | interface (type : String)
  | member (member : Member)
  deriving DecidableEq, Repr

/-- Applies a change. -/
def edit (decl : MixinDecl) : Edit → MixinDecl
  | .doc text => { decl with info := decl.info.withDoc text }
  | .annotate text => { decl with info := decl.info.annotate text }
  | .modifier modifier => { decl with modifier := some modifier }
  | .typeParam param => { decl with typeParams := decl.typeParams ++ [param] }
  | .constraint type => { decl with constraints := decl.constraints ++ [type] }
  | .interface type => { decl with interfaces := decl.interfaces ++ [type] }
  | .member member => { decl with members := decl.members ++ [member] }

/-- The only modifier of a mixin is `base`. -/
def modifierRules (s : Subject) (decl : MixinDecl) : List Rule :=
  match decl.modifier with
  | none => []
  | some modifier => [s.must (modifier == .base) (.illegalModifier modifier.text "a mixin")]

/-- What a mixin must satisfy. -/
def rules (decl : MixinDecl) : List Rule :=
  let s : Subject := ⟨.mixinDecl, decl.name⟩
  s.usableName decl.name ++ TypeParam.rules decl.typeParams ++ decl.modifierRules s ++
    [s.must (!decl.members.any Member.isConstructor) (.illegalMember "a mixin" "constructors")] ++
    Supertype.notSelf s decl.name "on" decl.constraints ++
    Supertype.notSelf s decl.name "implements" decl.interfaces

/-- The mixin, if it breaks no rule. -/
def build (decl : MixinDecl) : Except Fault MixinDecl :=
  Rule.enforce decl.rules decl

/-- The line that opens the mixin. -/
def header (decl : MixinDecl) : String :=
  keywords [("base", decl.modifier == some .base)] ++ "mixin " ++ decl.name ++
    TypeParam.listText decl.typeParams ++
    Supertype.clause "on" decl.constraints ++ Supertype.clause "implements" decl.interfaces

/-- The mixin with what stands above it. -/
def fragments (decl : MixinDecl) : List Fragment :=
  decl.info.fragments ++ [Fragment.braced decl.header (Member.bodyFragments decl.members)]

end MixinDecl

end DartSource
