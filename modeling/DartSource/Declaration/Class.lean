import DartSource.Declaration.Supertype

/-!
# Classes
-/

namespace DartSource

/-- A class. -/
structure ClassDecl where
  name : String
  info : Meta := {}
  isAbstract : Bool := false
  modifier : Option ClassModifier := none
  /-- Declared as `mixin class`. -/
  isMixin : Bool := false
  typeParams : List TypeParam := []
  superclass : Option String := none
  mixins : List String := []
  interfaces : List String := []
  members : List Member := []
  deriving DecidableEq, Repr, Inhabited

namespace ClassDecl

/-- A change to a class. -/
inductive Edit where
  | doc (text : String)
  | annotate (text : String)
  | abstract
  | modifier (modifier : ClassModifier)
  | mixinClass
  | typeParam (param : TypeParam)
  | superclass (type : String)
  | mixin (type : String)
  | interface (type : String)
  | member (member : Member)
  | members (members : List Member)
  deriving DecidableEq, Repr

/-- Applies a change. -/
def edit (decl : ClassDecl) : Edit → ClassDecl
  | .doc text => { decl with info := decl.info.withDoc text }
  | .annotate text => { decl with info := decl.info.annotate text }
  | .abstract => { decl with isAbstract := true }
  | .modifier modifier => { decl with modifier := some modifier }
  | .mixinClass => { decl with isMixin := true }
  | .typeParam param => { decl with typeParams := decl.typeParams ++ [param] }
  | .superclass type => { decl with superclass := some type }
  | .mixin type => { decl with mixins := decl.mixins ++ [type] }
  | .interface type => { decl with interfaces := decl.interfaces ++ [type] }
  | .member member => { decl with members := decl.members ++ [member] }
  | .members members => { decl with members := decl.members ++ members }

/-- A `mixin class` may be `base` and nothing else, and extends nothing. -/
def mixinRules (s : Subject) (decl : ClassDecl) : List Rule :=
  if decl.isMixin then
    (match decl.modifier with
      | none => []
      | some modifier => [s.must (modifier == .base) (.conflict "mixin" modifier.text)]) ++
      [s.exclusive ("mixin", true) ("extends", decl.superclass.isSome)]
  else []

/-- What a class must satisfy. -/
def rules (decl : ClassDecl) : List Rule :=
  let s : Subject := ⟨.classDecl, decl.name⟩
  s.usableName decl.name ++ TypeParam.rules decl.typeParams ++
    [s.exclusive ("sealed", decl.modifier == some .sealed) ("abstract", decl.isAbstract)] ++
    decl.mixinRules s ++
    decl.superclass.toList.map (fun type =>
      s.must (!Text.allBlank type) (.missingType "extends")) ++
    Supertype.notSelf s decl.name "extends" decl.superclass.toList ++
    Supertype.notSelf s decl.name "with" decl.mixins ++
    Supertype.notSelf s decl.name "implements" decl.interfaces ++
    Supertype.disjoint s decl.mixins decl.interfaces ++
    Supertype.ownConstructors s decl.name decl.members

/-- The class, if it breaks no rule. -/
def build (decl : ClassDecl) : Except Fault ClassDecl :=
  Rule.enforce decl.rules decl

/-- The line that opens the class. -/
def header (decl : ClassDecl) : String :=
  keywords [("abstract", decl.isAbstract)] ++
    (match decl.modifier with
      | some modifier => modifier.text ++ " "
      | none => "") ++
    keywords [("mixin", decl.isMixin)] ++ "class " ++ decl.name ++
    TypeParam.listText decl.typeParams ++
    Supertype.clause "extends" decl.superclass.toList ++
    Supertype.clause "with" decl.mixins ++ Supertype.clause "implements" decl.interfaces

/-- The class with what stands above it. -/
def fragments (decl : ClassDecl) : List Fragment :=
  decl.info.fragments ++ [Fragment.braced decl.header (Member.bodyFragments decl.members)]

end ClassDecl

end DartSource
