import DartSource.Lowering.Declaration
import DartSource.Proofs.Lowering.Flags
import DartSource.Proofs.Member.Constructor
import DartSource.Proofs.Rule
import Mathlib.Data.List.Forall2

/-!
# Which node a record describes

Lowering goes through a record step by step and may stop at any of them. This module says what it
amounts to when it does not stop: for every kind of record a relation `Describes` between records
and nodes, field by field, with no path and no order of steps in it. A node is described when

* each of its plain fields is the record's,
* its flags are the record's keywords (`Acceptance.Spells`),
* its initial value is what the record expresses (`Record.Expresses`),
* the nodes inside it are described, one by one, by the records inside the record, and
* it breaks no rule.

For every kind lowering gives a node exactly when the record describes it, at whatever path
(`Lowering.declaration_eq_ok_iff` and the theorems that lead to it). All that is said below about
records that lower to the same node is said about these relations.
-/

namespace DartSource

open Record (Modifier)

/-! ### The flags of a node

One flag for each keyword that records of the kind accept, in the order in which they are listed
there. -/

section Flags

def Param.flags (node : Param) : List (Modifier × Bool) :=
  [(.named, node.isNamed), (.optional, node.isOptional), (.required, node.isRequired),
   (.this, node.isField), (.super, node.isSuper)]

def Property.flags (node : Property) : List (Modifier × Bool) :=
  [(.static, node.isStatic), (.const, node.isConst), (.final, node.isFinal),
   (.late, node.isLate), (.covariant, node.isCovariant), (.external, node.isExternal)]

def Getter.flags (node : Getter) : List (Modifier × Bool) :=
  [(.static, node.isStatic), (.external, node.isExternal), (.async, node.isAsync),
   (.generator, node.isGenerator)]

def Setter.flags (node : Setter) : List (Modifier × Bool) :=
  [(.static, node.isStatic), (.external, node.isExternal)]

def Constructor.flags (node : Constructor) : List (Modifier × Bool) :=
  [(.const, node.isConst), (.factory, node.isFactory), (.external, node.isExternal)]

/-- The flags that methods share with functions. -/
def Callable.flags (callable : Callable) : List (Modifier × Bool) :=
  [(.external, callable.isExternal), (.async, callable.isAsync),
   (.generator, callable.isGenerator)]

def Method.flags (node : Method) : List (Modifier × Bool) :=
  (.static, node.isStatic) :: (.override, node.isOverride) :: node.callable.flags

/-- The limit of a class or mixin, as one flag for each of the keywords that set it. -/
def ClassModifier.flags (limit : Option ClassModifier) : List (Modifier × Bool) :=
  Lowering.limits.map fun entry => (entry.1, limit == some entry.2)

def ClassDecl.flags (node : ClassDecl) : List (Modifier × Bool) :=
  (.abstract, node.isAbstract) :: ClassModifier.flags node.modifier ++ [(.mixin, node.isMixin)]

def MixinDecl.flags (node : MixinDecl) : List (Modifier × Bool) :=
  ClassModifier.flags node.modifier

def VariableDecl.flags (node : VariableDecl) : List (Modifier × Bool) :=
  [(.external, node.isExternal), (.late, node.isLate), (.const, node.isConst),
   (.final, node.isFinal)]

end Flags

/-! ### The relations -/

namespace Record

/-- What a record with an expression or a constant says about an initial value: the expression
itself, or the expression that the constant is rendered as. -/
inductive Expresses (converters : Converters) :
    Option String → Option Value → Option String → Prop where
  | absent : Expresses converters none none none
  | expression (text : String) : Expresses converters (some text) none (some text)
  | constant {value : Value} {text : String} (h : value.render converters = .ok text) :
      Expresses converters none (some value) (some text)

/-- A record describes a parameter. -/
structure Param.Describes (record : Param) (node : DartSource.Param) : Prop where
  name : node.name = record.name
  type : node.type = record.type
  keywords : Acceptance.aParameter.Spells record.modifiers node.flags
  defaultValue : node.defaultValue = record.defaultValue
  legal : Rule.Obeyed node.rules

/-- A record describes a callable, its keywords and its legality apart. -/
structure Callable.Describes (record : Callable) (callable : DartSource.Callable) : Prop where
  name : callable.name = record.name
  info : callable.info = record.info
  returns : callable.returns = record.returns
  typeParams : callable.typeParams = record.typeParams
  params : List.Forall₂ Param.Describes record.params callable.params
  multiline : callable.multiline = record.multiline
  body : callable.body = record.body

/-- A record describes a method. -/
structure Callable.DescribesMethod (record : Callable) (node : DartSource.Method) : Prop where
  callable : record.Describes node.callable
  keywords : Acceptance.aMethod.Spells record.modifiers node.flags
  legal : Rule.Obeyed node.rules

/-- A record describes a function. -/
structure Callable.DescribesFunction (record : Callable) (node : FunctionDecl) : Prop where
  callable : record.Describes node.callable
  keywords : Acceptance.aFunction.Spells record.modifiers node.callable.flags
  legal : Rule.Obeyed node.rules

/-- A record describes a field. -/
structure Property.Describes (converters : Converters) (record : Property)
    (node : DartSource.Property) : Prop where
  name : node.name = record.name
  info : node.info = record.info
  type : node.type = record.type
  keywords : Acceptance.aProperty.Spells record.modifiers node.flags
  initial : Expresses converters record.defaultValue record.value node.defaultValue
  legal : Rule.Obeyed node.rules

/-- A record describes a getter. -/
structure Getter.Describes (record : Getter) (node : DartSource.Getter) : Prop where
  name : node.name = record.name
  info : node.info = record.info
  type : node.type = record.type
  keywords : Acceptance.aGetter.Spells record.modifiers node.flags
  body : node.body = record.body
  legal : Rule.Obeyed node.rules

/-- A record describes a setter. -/
structure Setter.Describes (record : Setter) (node : DartSource.Setter) : Prop where
  name : node.name = record.name
  info : node.info = record.info
  param : record.param.Describes node.param
  keywords : Acceptance.aSetter.Spells record.modifiers node.flags
  body : node.body = record.body
  legal : Rule.Obeyed node.rules

/-- A record describes a constructor inside the declaration of `owner`. -/
structure Constructor.Describes (owner : String) (record : Constructor)
    (node : DartSource.Constructor) : Prop where
  className : node.className = record.className.getD owner
  name : node.name = record.name
  info : node.info = record.info
  params : List.Forall₂ Param.Describes record.params node.params
  keywords : Acceptance.aConstructor.Spells record.modifiers node.flags
  multiline : node.multiline = record.multiline
  initializers :
    node.initializers = Initializer.arrange (record.initializers.map Lowering.initializer)
  body : node.body = record.body
  legal : Rule.Obeyed node.rules

/-- A record describes a member of the declaration of `owner`. -/
inductive Member.Describes (converters : Converters) (owner : String) :
    Member → DartSource.Member → Prop where
  | property {record node} (h : Property.Describes converters record node) :
      Describes converters owner (.property record) (.property node)
  | getter {record node} (h : Getter.Describes record node) :
      Describes converters owner (.getter record) (.getter node)
  | setter {record node} (h : Setter.Describes record node) :
      Describes converters owner (.setter record) (.setter node)
  | constructor {record node} (h : Constructor.Describes owner record node) :
      Describes converters owner (.constructor record) (.constructor node)
  | method {record node} (h : Callable.DescribesMethod record node) :
      Describes converters owner (.method record) (.method node)

/-- A record describes a class. -/
structure ClassDecl.Describes (converters : Converters) (record : ClassDecl)
    (node : DartSource.ClassDecl) : Prop where
  name : node.name = record.name
  info : node.info = record.info
  keywords : Acceptance.aClass.Spells record.modifiers node.flags
  typeParams : node.typeParams = record.typeParams
  superclass : node.superclass = record.superclass
  mixins : node.mixins = record.mixins
  interfaces : node.interfaces = record.interfaces
  members :
    List.Forall₂ (Member.Describes converters record.name) record.members node.members
  legal : Rule.Obeyed node.rules

/-- The constant calls a constructor: it names one, or has arguments, though there be none. -/
def EnumConstant.calls (record : EnumConstant) : Bool :=
  record.constructor.isSome || record.args.isSome || !record.named.entries.isEmpty

/-- A record describes a constant of an enum. -/
structure EnumConstant.Describes (record : EnumConstant) (node : DartSource.EnumConstant) :
    Prop where
  name : node.name = record.name
  info : node.info = record.info
  constructor : node.constructor = record.constructor
  arguments :
    node.arguments =
      if record.calls then some ⟨record.args.getD [], record.named.entries⟩ else none
  legal : Rule.Obeyed node.rules

/-- A record describes an enum. -/
structure EnumDecl.Describes (converters : Converters) (record : EnumDecl)
    (node : DartSource.EnumDecl) : Prop where
  name : node.name = record.name
  info : node.info = record.info
  typeParams : node.typeParams = record.typeParams
  mixins : node.mixins = record.mixins
  interfaces : node.interfaces = record.interfaces
  constants : List.Forall₂ EnumConstant.Describes record.constants node.constants
  members :
    List.Forall₂ (Member.Describes converters record.name) record.members node.members
  legal : Rule.Obeyed node.rules

/-- A record describes a mixin. -/
structure MixinDecl.Describes (converters : Converters) (record : MixinDecl)
    (node : DartSource.MixinDecl) : Prop where
  name : node.name = record.name
  info : node.info = record.info
  keywords : Acceptance.aMixin.Spells record.modifiers node.flags
  typeParams : node.typeParams = record.typeParams
  constraints : node.constraints = record.constraints
  interfaces : node.interfaces = record.interfaces
  members :
    List.Forall₂ (Member.Describes converters record.name) record.members node.members
  legal : Rule.Obeyed node.rules

/-- A record describes an extension. -/
structure ExtensionDecl.Describes (converters : Converters) (record : ExtensionDecl)
    (node : DartSource.ExtensionDecl) : Prop where
  target : node.target = record.target
  name : node.name = record.name
  info : node.info = record.info
  typeParams : node.typeParams = record.typeParams
  members :
    List.Forall₂ (Member.Describes converters (record.name.getD record.target))
      record.members node.members
  legal : Rule.Obeyed node.rules

/-- A record describes a variable. -/
structure VariableDecl.Describes (converters : Converters) (record : VariableDecl)
    (node : DartSource.VariableDecl) : Prop where
  name : node.name = record.name
  info : node.info = record.info
  type : node.type = record.type
  keywords : Acceptance.aVariable.Spells record.modifiers node.flags
  initial : Expresses converters record.defaultValue record.value node.value
  legal : Rule.Obeyed node.rules

/-- A record describes a declaration. -/
inductive Declaration.Describes (converters : Converters) :
    Declaration → DartSource.Declaration → Prop where
  | classDecl {record node} (h : ClassDecl.Describes converters record node) :
      Describes converters (.classDecl record) (.classDecl node)
  | enumDecl {record node} (h : EnumDecl.Describes converters record node) :
      Describes converters (.enumDecl record) (.enumDecl node)
  | mixinDecl {record node} (h : MixinDecl.Describes converters record node) :
      Describes converters (.mixinDecl record) (.mixinDecl node)
  | extensionDecl {record node} (h : ExtensionDecl.Describes converters record node) :
      Describes converters (.extensionDecl record) (.extensionDecl node)
  | functionDecl {record node} (h : Callable.DescribesFunction record node) :
      Describes converters (.functionDecl record) (.functionDecl node)
  | variable {record node} (h : VariableDecl.Describes converters record node) :
      Describes converters (.variable record) (.variable node)

end Record

attribute [ext] Param Property Getter Setter Constructor Callable Method ClassDecl EnumConstant
  EnumDecl MixinDecl ExtensionDecl VariableDecl

namespace Lowering

/-! ### Steps that all kinds share -/

/-- Reporting a fault at a path leaves a node alone. -/
theorem atPath_eq_ok_iff {α : Type} {path : RecordPath} {built : Except Fault α} {node : α} :
    atPath path built = .ok node ↔ built = .ok node := by
  cases built <;> simp [atPath]

/-- A draft that equals a legal node is itself legal. -/
theorem obeyed_and_eq {α : Type} {rules : α → List Rule} {draft node : α}
    (h : Rule.Obeyed (rules node)) (heq : draft = node) :
    Rule.Obeyed (rules draft) ∧ draft = node := by
  subst heq
  exact ⟨h, rfl⟩

/-- **Records in a list are lowered one by one.** As none of them depends on its path, the index at
which the list starts makes no difference. -/
theorem eachFrom_eq_ok_iff {α β : Type} {lower : RecordPath → α → Except Failure β}
    {describes : α → β → Prop}
    (h : ∀ path record node, lower path record = .ok node ↔ describes record node)
    (path : RecordPath) (name : String) (index : Nat) (records : List α) (nodes : List β) :
    eachFrom path name lower index records = .ok nodes ↔
      List.Forall₂ describes records nodes := by
  induction records generalizing index nodes with
  | nil =>
    rw [eachFrom, List.forall₂_nil_left_iff, Except.ok.injEq, eq_comm]
  | cons record rest ih =>
    rw [eachFrom, bind_eq_ok_iff, List.forall₂_cons_left_iff]
    constructor
    · -- the first record is one step of the chain and the rest of the list is the other
      rintro ⟨node, hnode, hrest⟩
      obtain ⟨more, hmore, heq⟩ := bind_eq_ok_iff.mp hrest
      obtain rfl := Except.ok.inj heq
      exact ⟨node, more, (h _ _ _).mp hnode, (ih _ _).mp hmore, rfl⟩
    · rintro ⟨node, more, hnode, hmore, rfl⟩
      refine ⟨node, (h _ _ _).mpr hnode, bind_eq_ok_iff.mpr ⟨more, (ih _ _).mpr hmore, rfl⟩⟩

theorem each_eq_ok_iff {α β : Type} {lower : RecordPath → α → Except Failure β}
    {describes : α → β → Prop}
    (h : ∀ path record node, lower path record = .ok node ↔ describes record node)
    {path : RecordPath} {name : String} {records : List α} {nodes : List β} :
    each path name lower records = .ok nodes ↔ List.Forall₂ describes records nodes :=
  eachFrom_eq_ok_iff h path name 0 records nodes

/-- The initial value of a node is what its record expresses. -/
theorem initialValue_eq_ok_iff {converters : Converters} {path : RecordPath}
    {defaultValue : Option String} {value : Option Record.Value} {expression : Option String} :
    initialValue converters path defaultValue value = .ok expression ↔
      Record.Expresses converters defaultValue value expression := by
  cases defaultValue with
  | some text =>
    cases value with
    | some value =>
      -- an expression beside a constant is refused, and expresses nothing
      refine ⟨fun h => absurd h (by simp [initialValue]), fun h => ?_⟩
      cases h
    | none =>
      rw [initialValue, Except.ok.injEq]
      constructor
      · rintro rfl
        exact .expression text
      · rintro ⟨⟩
        rfl
  | none =>
    cases value with
    | some value =>
      rw [initialValue, bind_eq_ok_iff]
      constructor
      · rintro ⟨text, hrender, heq⟩
        obtain rfl := Except.ok.inj heq
        exact .constant (atPath_eq_ok_iff.mp hrender)
      · rintro (_ | _ | hrender)
        exact ⟨_, atPath_eq_ok_iff.mpr hrender, rfl⟩
    | none =>
      rw [initialValue, Except.ok.injEq]
      constructor
      · rintro rfl
        exact .absent
      · rintro ⟨⟩
        rfl

/-! ### Signatures -/

theorem param_eq_ok_iff {path : RecordPath} {record : Record.Param} {node : Param} :
    param path record = .ok node ↔ record.Describes node := by
  rw [param, bind_eq_ok_iff]
  constructor
  · rintro ⟨⟨⟩, hcheck, hbuild⟩
    -- building only checks, so the draft that lowering made is the node
    obtain ⟨hlegal, rfl⟩ := Rule.enforce_eq_ok_iff.mp (atPath_eq_ok_iff.mp hbuild)
    exact
      { name := rfl
        type := rfl
        keywords := ⟨Acceptance.check_eq_ok_iff.mp hcheck, by simp [Param.flags]⟩
        defaultValue := rfl
        legal := hlegal }
  · intro h
    refine ⟨(), Acceptance.check_eq_ok_iff.mpr h.keywords.admits, ?_⟩
    refine atPath_eq_ok_iff.mpr (Rule.enforce_eq_ok_iff.mpr (obeyed_and_eq h.legal ?_))
    -- the draft agrees with the node field by field, its flags by the keywords
    refine Param.ext h.name.symm h.type.symm ?_ ?_ ?_ ?_ ?_ h.defaultValue.symm
    all_goals exact h.keywords.decide_eq (by simp [Param.flags])

theorem params_eq_ok_iff {path : RecordPath} {records : List Record.Param} {nodes : List Param} :
    params path records = .ok nodes ↔ List.Forall₂ Record.Param.Describes records nodes := by
  rw [params]
  refine each_eq_ok_iff ?_
  exact fun _ _ _ => param_eq_ok_iff

/-- The draft of a callable has the parts that its record describes. Its flags are set by keywords
that the callers of this step check. -/
theorem callable_eq_ok_iff {path : RecordPath} {record : Record.Callable} {draft : Callable} :
    callable path record = .ok draft ↔
      record.Describes draft ∧
        ∀ flag ∈ draft.flags, flag.2 = true ↔ flag.1 ∈ record.modifiers := by
  rw [callable, bind_eq_ok_iff]
  constructor
  · rintro ⟨params, hparams, heq⟩
    obtain rfl := Except.ok.inj heq
    refine ⟨?_, by simp [Callable.flags]⟩
    exact
      { name := rfl
        info := rfl
        returns := rfl
        typeParams := rfl
        params := params_eq_ok_iff.mp hparams
        multiline := rfl
        body := rfl }
  · rintro ⟨h, hflags⟩
    refine ⟨draft.params, params_eq_ok_iff.mpr h.params, congrArg Except.ok ?_⟩
    -- there is no check of keywords here, so the flags are compared one by one
    have hset : ∀ {modifier set}, (modifier, set) ∈ draft.flags →
        decide (modifier ∈ record.modifiers) = set := by
      intro modifier set hmem
      rw [Bool.eq_iff_iff, decide_eq_true_iff]
      exact (hflags (modifier, set) hmem).symm
    refine Callable.ext h.name.symm h.info.symm h.returns.symm h.typeParams.symm rfl
      h.multiline.symm ?_ ?_ ?_ h.body.symm
    all_goals exact hset (by simp [Callable.flags])

/-! ### Members -/

theorem property_eq_ok_iff {converters : Converters} {path : RecordPath}
    {record : Record.Property} {node : Property} :
    property converters path record = .ok node ↔ record.Describes converters node := by
  rw [property, bind_eq_ok_iff]
  constructor
  · rintro ⟨⟨⟩, hcheck, hrest⟩
    -- behind the keywords come the initial value and the rules
    obtain ⟨value, hvalue, hbuild⟩ := bind_eq_ok_iff.mp hrest
    obtain ⟨hlegal, rfl⟩ := Rule.enforce_eq_ok_iff.mp (atPath_eq_ok_iff.mp hbuild)
    exact
      { name := rfl
        info := rfl
        type := rfl
        keywords := ⟨Acceptance.check_eq_ok_iff.mp hcheck, by simp [Property.flags]⟩
        initial := initialValue_eq_ok_iff.mp hvalue
        legal := hlegal }
  · intro h
    refine ⟨(), Acceptance.check_eq_ok_iff.mpr h.keywords.admits, ?_⟩
    refine bind_eq_ok_iff.mpr ⟨_, initialValue_eq_ok_iff.mpr h.initial, ?_⟩
    refine atPath_eq_ok_iff.mpr (Rule.enforce_eq_ok_iff.mpr (obeyed_and_eq h.legal ?_))
    refine Property.ext h.name.symm h.info.symm h.type.symm ?_ ?_ ?_ ?_ ?_ ?_ rfl
    all_goals exact h.keywords.decide_eq (by simp [Property.flags])

theorem getter_eq_ok_iff {path : RecordPath} {record : Record.Getter} {node : Getter} :
    getter path record = .ok node ↔ record.Describes node := by
  rw [getter, bind_eq_ok_iff]
  constructor
  · rintro ⟨⟨⟩, hcheck, hbuild⟩
    obtain ⟨hlegal, rfl⟩ := Rule.enforce_eq_ok_iff.mp (atPath_eq_ok_iff.mp hbuild)
    exact
      { name := rfl
        info := rfl
        type := rfl
        keywords := ⟨Acceptance.check_eq_ok_iff.mp hcheck, by simp [Getter.flags]⟩
        body := rfl
        legal := hlegal }
  · intro h
    refine ⟨(), Acceptance.check_eq_ok_iff.mpr h.keywords.admits, ?_⟩
    refine atPath_eq_ok_iff.mpr (Rule.enforce_eq_ok_iff.mpr (obeyed_and_eq h.legal ?_))
    refine Getter.ext h.name.symm h.info.symm h.type.symm ?_ ?_ ?_ ?_ h.body.symm
    all_goals exact h.keywords.decide_eq (by simp [Getter.flags])

theorem setter_eq_ok_iff {path : RecordPath} {record : Record.Setter} {node : Setter} :
    setter path record = .ok node ↔ record.Describes node := by
  rw [setter, bind_eq_ok_iff]
  constructor
  · rintro ⟨⟨⟩, hcheck, hrest⟩
    -- the parameter is lowered before the setter is built
    obtain ⟨param, hparam, hbuild⟩ := bind_eq_ok_iff.mp hrest
    obtain ⟨hlegal, rfl⟩ := Rule.enforce_eq_ok_iff.mp (atPath_eq_ok_iff.mp hbuild)
    exact
      { name := rfl
        info := rfl
        param := param_eq_ok_iff.mp hparam
        keywords := ⟨Acceptance.check_eq_ok_iff.mp hcheck, by simp [Setter.flags]⟩
        body := rfl
        legal := hlegal }
  · intro h
    refine ⟨(), Acceptance.check_eq_ok_iff.mpr h.keywords.admits, ?_⟩
    refine bind_eq_ok_iff.mpr ⟨_, param_eq_ok_iff.mpr h.param, ?_⟩
    refine atPath_eq_ok_iff.mpr (Rule.enforce_eq_ok_iff.mpr (obeyed_and_eq h.legal ?_))
    refine Setter.ext h.name.symm rfl h.info.symm ?_ ?_ h.body.symm
    all_goals exact h.keywords.decide_eq (by simp [Setter.flags])

/-- The rules of a constructor are checked before its initializers are arranged; a described
constructor is legal in either order. -/
theorem constructor_eq_ok_iff {owner : String} {path : RecordPath} {record : Record.Constructor}
    {node : Constructor} :
    constructor owner path record = .ok node ↔ record.Describes owner node := by
  rw [constructor, bind_eq_ok_iff]
  constructor
  · rintro ⟨⟨⟩, hcheck, hrest⟩
    obtain ⟨params, hparams, hbuild⟩ := bind_eq_ok_iff.mp hrest
    -- the rules were obeyed in the order given, and are in written order too
    have hlegal := Constructor.obeyed_rules_of_build (atPath_eq_ok_iff.mp hbuild)
    obtain ⟨-, rfl⟩ := Constructor.build_eq_ok_iff.mp (atPath_eq_ok_iff.mp hbuild)
    exact
      { className := rfl
        name := rfl
        info := rfl
        params := params_eq_ok_iff.mp hparams
        keywords := ⟨Acceptance.check_eq_ok_iff.mp hcheck, by simp [Constructor.flags]⟩
        multiline := rfl
        initializers := rfl
        body := rfl
        legal := hlegal }
  · intro h
    refine ⟨(), Acceptance.check_eq_ok_iff.mpr h.keywords.admits, ?_⟩
    refine bind_eq_ok_iff.mpr ⟨_, params_eq_ok_iff.mpr h.params, ?_⟩
    refine atPath_eq_ok_iff.mpr (Constructor.build_eq_ok_iff.mpr ?_)
    -- the draft is the node, but for the order of its initializers
    have hdraft : ∀ entries, ({
        className := record.className.getD owner
        name := record.name
        info := record.info
        params := node.params
        multiline := record.multiline
        isConst := decide (.const ∈ record.modifiers)
        isFactory := decide (.factory ∈ record.modifiers)
        isExternal := decide (.external ∈ record.modifiers)
        initializers := entries
        body := record.body } : Constructor) = { node with initializers := entries } := by
      intro entries
      refine Constructor.ext h.className.symm h.name.symm h.info.symm rfl h.multiline.symm
        ?_ ?_ ?_ rfl h.body.symm
      all_goals exact h.keywords.decide_eq (by simp [Constructor.flags])
    rw [hdraft, ← h.initializers]
    -- conversely the node is legal in written order, and so is the draft in the order given
    refine ⟨Constructor.obeyed_rules_of_perm ?_ h.legal, rfl⟩
    rw [h.initializers]
    exact Initializer.arrange_perm _

theorem method_eq_ok_iff {path : RecordPath} {record : Record.Callable} {node : Method} :
    method path record = .ok node ↔ record.DescribesMethod node := by
  rw [method, bind_eq_ok_iff]
  constructor
  · rintro ⟨⟨⟩, hcheck, hrest⟩
    obtain ⟨draft, hdraft, hbuild⟩ := bind_eq_ok_iff.mp hrest
    obtain ⟨hlegal, rfl⟩ := Rule.enforce_eq_ok_iff.mp (atPath_eq_ok_iff.mp hbuild)
    obtain ⟨hcallable, hflags⟩ := callable_eq_ok_iff.mp hdraft
    -- two flags are the method's own, the others come with the callable
    refine ⟨hcallable, ⟨Acceptance.check_eq_ok_iff.mp hcheck, ?_⟩, hlegal⟩
    simpa [Method.flags] using hflags
  · intro h
    refine ⟨(), Acceptance.check_eq_ok_iff.mpr h.keywords.admits, ?_⟩
    refine bind_eq_ok_iff.mpr ⟨node.callable, callable_eq_ok_iff.mpr ⟨h.callable, ?_⟩, ?_⟩
    · intro flag hflag
      exact h.keywords.set_iff flag (List.mem_cons_of_mem _ (List.mem_cons_of_mem _ hflag))
    · refine atPath_eq_ok_iff.mpr (Rule.enforce_eq_ok_iff.mpr (obeyed_and_eq h.legal ?_))
      refine Method.ext rfl ?_ ?_
      all_goals exact h.keywords.decide_eq (by simp [Method.flags])

theorem member_eq_ok_iff {converters : Converters} {owner : String} {path : RecordPath}
    {record : Record.Member} {node : Member} :
    member converters owner path record = .ok node ↔ record.Describes converters owner node := by
  cases record with
  | property record =>
    rw [member, bind_eq_ok_iff]
    constructor
    · rintro ⟨built, hbuilt, ⟨⟩⟩
      exact .property (property_eq_ok_iff.mp hbuilt)
    · intro h
      cases h with
      | property h => exact ⟨_, property_eq_ok_iff.mpr h, rfl⟩
  | getter record =>
    rw [member, bind_eq_ok_iff]
    constructor
    · rintro ⟨built, hbuilt, ⟨⟩⟩
      exact .getter (getter_eq_ok_iff.mp hbuilt)
    · intro h
      cases h with
      | getter h => exact ⟨_, getter_eq_ok_iff.mpr h, rfl⟩
  | setter record =>
    rw [member, bind_eq_ok_iff]
    constructor
    · rintro ⟨built, hbuilt, ⟨⟩⟩
      exact .setter (setter_eq_ok_iff.mp hbuilt)
    · intro h
      cases h with
      | setter h => exact ⟨_, setter_eq_ok_iff.mpr h, rfl⟩
  | constructor record =>
    rw [member, bind_eq_ok_iff]
    constructor
    · rintro ⟨built, hbuilt, ⟨⟩⟩
      exact .constructor (constructor_eq_ok_iff.mp hbuilt)
    · intro h
      cases h with
      | constructor h => exact ⟨_, constructor_eq_ok_iff.mpr h, rfl⟩
  | method record =>
    rw [member, bind_eq_ok_iff]
    constructor
    · rintro ⟨built, hbuilt, ⟨⟩⟩
      exact .method (method_eq_ok_iff.mp hbuilt)
    · intro h
      cases h with
      | method h => exact ⟨_, method_eq_ok_iff.mpr h, rfl⟩

theorem members_eq_ok_iff {converters : Converters} {owner : String} {path : RecordPath}
    {records : List Record.Member} {nodes : List Member} :
    members converters owner path records = .ok nodes ↔
      List.Forall₂ (Record.Member.Describes converters owner) records nodes := by
  rw [members]
  refine each_eq_ok_iff ?_
  exact fun _ _ _ => member_eq_ok_iff

/-! ### Declarations -/

/-- The limit that passes is the one that the flags of a class or mixin spell. -/
theorem limit?_eq_ok_iff_flags {path : RecordPath} {modifiers : List Modifier}
    {limit : Option ClassModifier} :
    limit? path modifiers = .ok limit ↔
      ∀ flag ∈ ClassModifier.flags limit, flag.2 = true ↔ flag.1 ∈ modifiers := by
  rw [limit?_eq_ok_iff, ClassModifier.flags, List.forall_mem_map]
  simp only [beq_iff_eq]

theorem classDecl_eq_ok_iff {converters : Converters} {path : RecordPath}
    {record : Record.ClassDecl} {node : ClassDecl} :
    classDecl converters path record = .ok node ↔ record.Describes converters node := by
  rw [classDecl, bind_eq_ok_iff]
  constructor
  · rintro ⟨⟨⟩, hcheck, hrest⟩
    obtain ⟨limit, hlimit, hrest⟩ := bind_eq_ok_iff.mp hrest
    obtain ⟨members, hmembers, hbuild⟩ := bind_eq_ok_iff.mp hrest
    obtain ⟨hlegal, rfl⟩ := Rule.enforce_eq_ok_iff.mp (atPath_eq_ok_iff.mp hbuild)
    -- the limiting keywords share one field and have a check of their own
    have hflags := limit?_eq_ok_iff_flags.mp hlimit
    exact
      { name := rfl
        info := rfl
        keywords := ⟨Acceptance.check_eq_ok_iff.mp hcheck, by
          rw [ClassDecl.flags, List.forall_mem_append, List.forall_mem_cons]
          exact ⟨⟨by simp, hflags⟩, by simp⟩⟩
        typeParams := rfl
        superclass := rfl
        mixins := rfl
        interfaces := rfl
        members := members_eq_ok_iff.mp hmembers
        legal := hlegal }
  · intro h
    refine ⟨(), Acceptance.check_eq_ok_iff.mpr h.keywords.admits, ?_⟩
    refine bind_eq_ok_iff.mpr ⟨node.modifier, limit?_eq_ok_iff_flags.mpr ?_, ?_⟩
    · intro flag hflag
      refine h.keywords.set_iff flag (List.mem_append_left _ ?_)
      exact List.mem_cons_of_mem _ hflag
    · refine bind_eq_ok_iff.mpr ⟨_, members_eq_ok_iff.mpr h.members, ?_⟩
      refine atPath_eq_ok_iff.mpr (Rule.enforce_eq_ok_iff.mpr (obeyed_and_eq h.legal ?_))
      refine ClassDecl.ext h.name.symm h.info.symm ?_ rfl ?_ h.typeParams.symm h.superclass.symm
        h.mixins.symm h.interfaces.symm rfl
      all_goals exact h.keywords.decide_eq (by simp [ClassDecl.flags])

theorem enumConstant_eq_ok_iff {path : RecordPath} {record : Record.EnumConstant}
    {node : EnumConstant} :
    enumConstant path record = .ok node ↔ record.Describes node := by
  rw [enumConstant, atPath_eq_ok_iff]
  constructor
  · intro hbuild
    obtain ⟨hlegal, rfl⟩ := Rule.enforce_eq_ok_iff.mp hbuild
    exact
      { name := rfl
        info := rfl
        constructor := rfl
        arguments := rfl
        legal := hlegal }
  · intro h
    refine Rule.enforce_eq_ok_iff.mpr (obeyed_and_eq h.legal ?_)
    exact EnumConstant.ext h.name.symm h.info.symm h.constructor.symm h.arguments.symm

theorem constants_eq_ok_iff {path : RecordPath} {records : List Record.EnumConstant}
    {nodes : List EnumConstant} :
    each path "constants" enumConstant records = .ok nodes ↔
      List.Forall₂ Record.EnumConstant.Describes records nodes := by
  refine each_eq_ok_iff ?_
  exact fun _ _ _ => enumConstant_eq_ok_iff

theorem enumDecl_eq_ok_iff {converters : Converters} {path : RecordPath}
    {record : Record.EnumDecl} {node : EnumDecl} :
    enumDecl converters path record = .ok node ↔ record.Describes converters node := by
  rw [enumDecl, bind_eq_ok_iff]
  constructor
  · rintro ⟨constants, hconstants, hrest⟩
    obtain ⟨members, hmembers, hbuild⟩ := bind_eq_ok_iff.mp hrest
    obtain ⟨hlegal, rfl⟩ := Rule.enforce_eq_ok_iff.mp (atPath_eq_ok_iff.mp hbuild)
    exact
      { name := rfl
        info := rfl
        typeParams := rfl
        mixins := rfl
        interfaces := rfl
        constants := constants_eq_ok_iff.mp hconstants
        members := members_eq_ok_iff.mp hmembers
        legal := hlegal }
  · intro h
    -- an enum has no keywords, so its constants are the first step
    refine ⟨_, constants_eq_ok_iff.mpr h.constants, ?_⟩
    refine bind_eq_ok_iff.mpr ⟨_, members_eq_ok_iff.mpr h.members, ?_⟩
    refine atPath_eq_ok_iff.mpr (Rule.enforce_eq_ok_iff.mpr (obeyed_and_eq h.legal ?_))
    exact EnumDecl.ext h.name.symm h.info.symm h.typeParams.symm h.mixins.symm h.interfaces.symm
      rfl rfl

theorem mixinDecl_eq_ok_iff {converters : Converters} {path : RecordPath}
    {record : Record.MixinDecl} {node : MixinDecl} :
    mixinDecl converters path record = .ok node ↔ record.Describes converters node := by
  rw [mixinDecl, bind_eq_ok_iff]
  constructor
  · rintro ⟨⟨⟩, hcheck, hrest⟩
    obtain ⟨limit, hlimit, hrest⟩ := bind_eq_ok_iff.mp hrest
    obtain ⟨members, hmembers, hbuild⟩ := bind_eq_ok_iff.mp hrest
    obtain ⟨hlegal, rfl⟩ := Rule.enforce_eq_ok_iff.mp (atPath_eq_ok_iff.mp hbuild)
    exact
      { name := rfl
        info := rfl
        keywords := ⟨Acceptance.check_eq_ok_iff.mp hcheck, limit?_eq_ok_iff_flags.mp hlimit⟩
        typeParams := rfl
        constraints := rfl
        interfaces := rfl
        members := members_eq_ok_iff.mp hmembers
        legal := hlegal }
  · intro h
    refine ⟨(), Acceptance.check_eq_ok_iff.mpr h.keywords.admits, ?_⟩
    -- all keywords of a mixin are limiting ones
    refine bind_eq_ok_iff.mpr ⟨_, limit?_eq_ok_iff_flags.mpr h.keywords.set_iff, ?_⟩
    refine bind_eq_ok_iff.mpr ⟨_, members_eq_ok_iff.mpr h.members, ?_⟩
    refine atPath_eq_ok_iff.mpr (Rule.enforce_eq_ok_iff.mpr (obeyed_and_eq h.legal ?_))
    exact MixinDecl.ext h.name.symm h.info.symm rfl h.typeParams.symm h.constraints.symm
      h.interfaces.symm rfl

theorem extensionDecl_eq_ok_iff {converters : Converters} {path : RecordPath}
    {record : Record.ExtensionDecl} {node : ExtensionDecl} :
    extensionDecl converters path record = .ok node ↔ record.Describes converters node := by
  rw [extensionDecl, bind_eq_ok_iff]
  constructor
  · rintro ⟨members, hmembers, hbuild⟩
    obtain ⟨hlegal, rfl⟩ := Rule.enforce_eq_ok_iff.mp (atPath_eq_ok_iff.mp hbuild)
    exact
      { target := rfl
        name := rfl
        info := rfl
        typeParams := rfl
        members := members_eq_ok_iff.mp hmembers
        legal := hlegal }
  · intro h
    refine ⟨_, members_eq_ok_iff.mpr h.members, ?_⟩
    refine atPath_eq_ok_iff.mpr (Rule.enforce_eq_ok_iff.mpr (obeyed_and_eq h.legal ?_))
    exact ExtensionDecl.ext h.target.symm h.name.symm h.info.symm h.typeParams.symm rfl

theorem functionDecl_eq_ok_iff {path : RecordPath} {record : Record.Callable}
    {node : FunctionDecl} :
    functionDecl path record = .ok node ↔ record.DescribesFunction node := by
  rw [functionDecl, bind_eq_ok_iff]
  constructor
  · rintro ⟨⟨⟩, hcheck, hrest⟩
    obtain ⟨draft, hdraft, hbuild⟩ := bind_eq_ok_iff.mp hrest
    obtain ⟨hlegal, rfl⟩ := Rule.enforce_eq_ok_iff.mp (atPath_eq_ok_iff.mp hbuild)
    obtain ⟨hcallable, hflags⟩ := callable_eq_ok_iff.mp hdraft
    exact ⟨hcallable, ⟨Acceptance.check_eq_ok_iff.mp hcheck, hflags⟩, hlegal⟩
  · intro h
    refine ⟨(), Acceptance.check_eq_ok_iff.mpr h.keywords.admits, ?_⟩
    refine bind_eq_ok_iff.mpr ⟨node.callable,
      callable_eq_ok_iff.mpr ⟨h.callable, h.keywords.set_iff⟩, ?_⟩
    exact atPath_eq_ok_iff.mpr (Rule.enforce_eq_ok_iff.mpr ⟨h.legal, rfl⟩)

theorem variableDecl_eq_ok_iff {converters : Converters} {path : RecordPath}
    {record : Record.VariableDecl} {node : VariableDecl} :
    variableDecl converters path record = .ok node ↔ record.Describes converters node := by
  rw [variableDecl, bind_eq_ok_iff]
  constructor
  · rintro ⟨⟨⟩, hcheck, hrest⟩
    obtain ⟨value, hvalue, hbuild⟩ := bind_eq_ok_iff.mp hrest
    obtain ⟨hlegal, rfl⟩ := Rule.enforce_eq_ok_iff.mp (atPath_eq_ok_iff.mp hbuild)
    exact
      { name := rfl
        info := rfl
        type := rfl
        keywords := ⟨Acceptance.check_eq_ok_iff.mp hcheck, by simp [VariableDecl.flags]⟩
        initial := initialValue_eq_ok_iff.mp hvalue
        legal := hlegal }
  · intro h
    refine ⟨(), Acceptance.check_eq_ok_iff.mpr h.keywords.admits, ?_⟩
    refine bind_eq_ok_iff.mpr ⟨_, initialValue_eq_ok_iff.mpr h.initial, ?_⟩
    refine atPath_eq_ok_iff.mpr (Rule.enforce_eq_ok_iff.mpr (obeyed_and_eq h.legal ?_))
    refine VariableDecl.ext h.name.symm h.info.symm h.type.symm ?_ ?_ ?_ ?_ rfl
    all_goals exact h.keywords.decide_eq (by simp [VariableDecl.flags])

/-- **Lowering a declaration gives a node exactly when the record describes it.** -/
theorem declaration_eq_ok_iff {converters : Converters} {path : RecordPath}
    {record : Record.Declaration} {node : Declaration} :
    declaration converters path record = .ok node ↔ record.Describes converters node := by
  cases record with
  | classDecl record =>
    rw [declaration, bind_eq_ok_iff]
    constructor
    · rintro ⟨built, hbuilt, ⟨⟩⟩
      exact .classDecl (classDecl_eq_ok_iff.mp hbuilt)
    · intro h
      cases h with
      | classDecl h => exact ⟨_, classDecl_eq_ok_iff.mpr h, rfl⟩
  | enumDecl record =>
    rw [declaration, bind_eq_ok_iff]
    constructor
    · rintro ⟨built, hbuilt, ⟨⟩⟩
      exact .enumDecl (enumDecl_eq_ok_iff.mp hbuilt)
    · intro h
      cases h with
      | enumDecl h => exact ⟨_, enumDecl_eq_ok_iff.mpr h, rfl⟩
  | mixinDecl record =>
    rw [declaration, bind_eq_ok_iff]
    constructor
    · rintro ⟨built, hbuilt, ⟨⟩⟩
      exact .mixinDecl (mixinDecl_eq_ok_iff.mp hbuilt)
    · intro h
      cases h with
      | mixinDecl h => exact ⟨_, mixinDecl_eq_ok_iff.mpr h, rfl⟩
  | extensionDecl record =>
    rw [declaration, bind_eq_ok_iff]
    constructor
    · rintro ⟨built, hbuilt, ⟨⟩⟩
      exact .extensionDecl (extensionDecl_eq_ok_iff.mp hbuilt)
    · intro h
      cases h with
      | extensionDecl h => exact ⟨_, extensionDecl_eq_ok_iff.mpr h, rfl⟩
  | functionDecl record =>
    rw [declaration, bind_eq_ok_iff]
    constructor
    · rintro ⟨built, hbuilt, ⟨⟩⟩
      exact .functionDecl (functionDecl_eq_ok_iff.mp hbuilt)
    · intro h
      cases h with
      | functionDecl h => exact ⟨_, functionDecl_eq_ok_iff.mpr h, rfl⟩
  | «variable» record =>
    rw [declaration, bind_eq_ok_iff]
    constructor
    · rintro ⟨built, hbuilt, ⟨⟩⟩
      exact .variable (variableDecl_eq_ok_iff.mp hbuilt)
    · intro h
      cases h with
      | «variable» h => exact ⟨_, variableDecl_eq_ok_iff.mpr h, rfl⟩

end Lowering

end DartSource
