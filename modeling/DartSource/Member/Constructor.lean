import DartSource.Member.Initializer
import DartSource.Signature.Body
import DartSource.Signature.Meta
import DartSource.Signature.Param

/-!
# Constructors

A constructor knows the type that it belongs to by name only. Building one checks its keywords
against its parameters, initializers and body, and puts the initializers into their written order.
-/

namespace DartSource

/-- A constructor. -/
structure Constructor where
  className : String
  /-- The name of a named constructor. -/
  name : Option String := none
  info : Meta := {}
  params : List Param := []
  /-- A formatter should put one parameter on each line. -/
  multiline : Bool := false
  isConst : Bool := false
  isFactory : Bool := false
  isExternal : Bool := false
  initializers : List Initializer := []
  body : Option Body := none
  deriving DecidableEq, Repr, Inhabited

namespace Constructor

/-- A change to a constructor. -/
inductive Edit where
  | doc (text : String)
  | annotate (text : String)
  | param (param : Param)
  | params (params : List Param)
  | multiline
  | const
  | factory
  | external
  | initializer (entry : Initializer)
  | body (body : Body)
  deriving DecidableEq, Repr

/-- Applies a change. -/
def edit (constructor : Constructor) : Edit → Constructor
  | .doc text => { constructor with info := constructor.info.withDoc text }
  | .annotate text => { constructor with info := constructor.info.annotate text }
  | .param param => { constructor with params := constructor.params ++ [param] }
  | .params params => { constructor with params := constructor.params ++ params }
  | .multiline => { constructor with multiline := true }
  | .const => { constructor with isConst := true }
  | .factory => { constructor with isFactory := true }
  | .external => { constructor with isExternal := true }
  | .initializer entry => { constructor with initializers := constructor.initializers ++ [entry] }
  | .body body => { constructor with body := some body }

/-- The class, and the constructor's own name behind a dot if it has one. -/
def displayName (constructor : Constructor) : String :=
  match constructor.name with
  | some name => constructor.className ++ "." ++ name
  | none => constructor.className

/-- The parameters by group. -/
def paramList (constructor : Constructor) : ParamList :=
  ParamList.ofParams constructor.params

/-- Some initializer is a redirection. -/
def redirects (constructor : Constructor) : Bool :=
  constructor.initializers.any Initializer.isRedirect

/-- What the names and parameters of a constructor must satisfy. -/
def nameRules (s : Subject) (constructor : Constructor) : List Rule :=
  s.usableName constructor.className ++ s.usableName? constructor.name ++
    constructor.paramList.rules s ++
    constructor.initializers.flatMap fun entry => s.usableName? entry.target?

/-- What the keywords of a constructor exclude. -/
def keywordRules (s : Subject) (constructor : Constructor) : List Rule :=
  [s.exclusive ("const", constructor.isConst) ("factory", constructor.isFactory),
   s.exclusive ("const", constructor.isConst) ("external", constructor.isExternal),
   s.must (!constructor.isExternal || constructor.body.isNone) .unexpectedBody,
   s.must (!constructor.isExternal || constructor.initializers.isEmpty)
     (.unexpectedInitializers "external"),
   s.must (!constructor.isConst || constructor.body.isNone) .unexpectedBody]

/-- A factory makes its object itself: it takes no parameter for a field and has no initializers,
and it has a body unless it is external. Only a factory may have an expression as its body. -/
def factoryRules (s : Subject) (constructor : Constructor) : List Rule :=
  if constructor.isFactory then
    constructor.paramList.noFormals s (.misplacedFormal · "factory") ++
      [s.must constructor.initializers.isEmpty (.unexpectedInitializers "factory"),
       s.must (constructor.isExternal || constructor.body.isSome) .missingBody]
  else
    [s.implies ("=>", constructor.body.any Body.isArrow) ("factory", false)]

/-- A redirection stands alone and passes on plain parameters only. -/
def redirectRules (s : Subject) (constructor : Constructor) : List Rule :=
  if constructor.redirects then
    s.must (constructor.initializers.length == 1 && constructor.body.isNone) .redirectNotAlone ::
      constructor.paramList.noFormals s (.misplacedFormal · "redirecting")
  else []

/-- What a constructor must satisfy. -/
def rules (constructor : Constructor) : List Rule :=
  let s : Subject := ⟨.constructor, constructor.displayName⟩
  constructor.nameRules s ++ constructor.keywordRules s ++ constructor.factoryRules s ++
    constructor.redirectRules s ++
    [s.must (decide ((constructor.initializers.filter Initializer.isSuper).length ≤ 1))
      .multipleSuperCalls]

/-- The constructor with its initializers in written order, if it breaks no rule. -/
def build (constructor : Constructor) : Except Fault Constructor :=
  Rule.enforce constructor.rules
    { constructor with initializers := Initializer.arrange constructor.initializers }

/-- The signature of a constructor, initializers included. -/
def signature (constructor : Constructor) : String :=
  keywords
      [("external", constructor.isExternal), ("const", constructor.isConst),
       ("factory", constructor.isFactory)] ++
    constructor.displayName ++ constructor.paramList.source constructor.multiline ++
    (if constructor.initializers.isEmpty then ""
     else " : " ++ Text.commaSep (constructor.initializers.map Initializer.text))

/-- The constructor with what stands above it. -/
def fragments (constructor : Constructor) : List Fragment :=
  constructor.info.fragments ++ Body.attach constructor.signature constructor.body

end Constructor

end DartSource
