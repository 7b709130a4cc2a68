import DartSource.Proofs.Lowering.Description

/-!
# Records that say the same

Two records of a kind are **alike** when they differ in nothing but

* the order of their keywords,
* an initial value given as a constant by one and as the expression of that constant by the other,
  or as two constants with one expression,
* the type of a constructor, left out by one and by the other given as the declaration around it,
* the order of a constructor's initializers across the kinds of initializers, though not within
  one, and
* the positional arguments of an enum constant, left out by one and given as none by the other,
  where the constant calls a constructor anyway.

Everything else has to be equal, in the same order. The relations `Alike` say this field by field,
and `Describes.alike_iff` says of each kind that it is exactly right: of the records that describe
a node, all are alike, and any record that is like one of them is one of them too.
-/

namespace DartSource.Record

/-! ### The relations -/

/-- The same initial value, where a constant may be given as the expression that it is rendered
as. -/
inductive InitialAlike (converters : Converters) :
    Option String → Option Value → Option String → Option Value → Prop where
  | same (defaultValue : Option String) (value : Option Value) :
      InitialAlike converters defaultValue value defaultValue value
  | rendered {value : Value} {text : String} (h : value.render converters = .ok text) :
      InitialAlike converters none (some value) (some text) none
  | restored {value : Value} {text : String} (h : value.render converters = .ok text) :
      InitialAlike converters (some text) none none (some value)
  | constants {value value' : Value} {text : String} (h : value.render converters = .ok text)
      (h' : value'.render converters = .ok text) :
      InitialAlike converters none (some value) none (some value')

/-- Parameters that say the same. -/
structure Param.Alike (a b : Param) : Prop where
  name : a.name = b.name
  type : a.type = b.type
  modifiers : a.modifiers.Perm b.modifiers
  defaultValue : a.defaultValue = b.defaultValue

/-- Functions or methods that say the same. -/
structure Callable.Alike (a b : Callable) : Prop where
  name : a.name = b.name
  info : a.info = b.info
  returns : a.returns = b.returns
  typeParams : a.typeParams = b.typeParams
  params : List.Forall₂ Param.Alike a.params b.params
  modifiers : a.modifiers.Perm b.modifiers
  multiline : a.multiline = b.multiline
  body : a.body = b.body

/-- Fields that say the same. -/
structure Property.Alike (converters : Converters) (a b : Property) : Prop where
  name : a.name = b.name
  info : a.info = b.info
  type : a.type = b.type
  modifiers : a.modifiers.Perm b.modifiers
  initial : InitialAlike converters a.defaultValue a.value b.defaultValue b.value

/-- Getters that say the same. -/
structure Getter.Alike (a b : Getter) : Prop where
  name : a.name = b.name
  info : a.info = b.info
  type : a.type = b.type
  modifiers : a.modifiers.Perm b.modifiers
  body : a.body = b.body

/-- Setters that say the same. -/
structure Setter.Alike (a b : Setter) : Prop where
  name : a.name = b.name
  info : a.info = b.info
  param : a.param.Alike b.param
  modifiers : a.modifiers.Perm b.modifiers
  body : a.body = b.body

/-- The kinds of initializers. -/
inductive Initializer.Kind where
  | assert
  | field
  | superCall
  | redirect
  deriving DecidableEq

/-- The kind of an initializer. -/
def Initializer.kind : Initializer → Kind
  | .assert _ _ => .assert
  | .field _ _ => .field
  | .superCall _ => .superCall
  | .redirect _ => .redirect

/-- Constructors inside the declaration of `owner` that say the same. -/
structure Constructor.Alike (owner : String) (a b : Constructor) : Prop where
  className : a.className.getD owner = b.className.getD owner
  name : a.name = b.name
  info : a.info = b.info
  params : List.Forall₂ Param.Alike a.params b.params
  modifiers : a.modifiers.Perm b.modifiers
  multiline : a.multiline = b.multiline
  initializers : ∀ kind,
    a.initializers.filter (fun entry => decide (entry.kind = kind)) =
      b.initializers.filter fun entry => decide (entry.kind = kind)
  body : a.body = b.body

/-- Members of the declaration of `owner` that say the same. -/
inductive Member.Alike (converters : Converters) (owner : String) : Member → Member → Prop where
  | property {a b} (h : Property.Alike converters a b) :
      Alike converters owner (.property a) (.property b)
  | getter {a b} (h : Getter.Alike a b) : Alike converters owner (.getter a) (.getter b)
  | setter {a b} (h : Setter.Alike a b) : Alike converters owner (.setter a) (.setter b)
  | constructor {a b} (h : Constructor.Alike owner a b) :
      Alike converters owner (.constructor a) (.constructor b)
  | method {a b} (h : Callable.Alike a b) : Alike converters owner (.method a) (.method b)

/-- Classes that say the same. -/
structure ClassDecl.Alike (converters : Converters) (a b : ClassDecl) : Prop where
  name : a.name = b.name
  info : a.info = b.info
  modifiers : a.modifiers.Perm b.modifiers
  typeParams : a.typeParams = b.typeParams
  superclass : a.superclass = b.superclass
  mixins : a.mixins = b.mixins
  interfaces : a.interfaces = b.interfaces
  members : List.Forall₂ (Member.Alike converters a.name) a.members b.members

/-- Enum constants that say the same. A constant that names a constructor or has labelled arguments
calls a constructor, whether or not its positional arguments are given. -/
structure EnumConstant.Alike (a b : EnumConstant) : Prop where
  name : a.name = b.name
  info : a.info = b.info
  constructor : a.constructor = b.constructor
  named : a.named = b.named
  args : a.args = b.args ∨
    (a.constructor.isSome ∨ a.named.entries ≠ []) ∧ a.args.getD [] = b.args.getD []

/-- Enums that say the same. -/
structure EnumDecl.Alike (converters : Converters) (a b : EnumDecl) : Prop where
  name : a.name = b.name
  info : a.info = b.info
  typeParams : a.typeParams = b.typeParams
  mixins : a.mixins = b.mixins
  interfaces : a.interfaces = b.interfaces
  constants : List.Forall₂ EnumConstant.Alike a.constants b.constants
  members : List.Forall₂ (Member.Alike converters a.name) a.members b.members

/-- Mixins that say the same. -/
structure MixinDecl.Alike (converters : Converters) (a b : MixinDecl) : Prop where
  name : a.name = b.name
  info : a.info = b.info
  modifiers : a.modifiers.Perm b.modifiers
  typeParams : a.typeParams = b.typeParams
  constraints : a.constraints = b.constraints
  interfaces : a.interfaces = b.interfaces
  members : List.Forall₂ (Member.Alike converters a.name) a.members b.members

/-- Extensions that say the same. -/
structure ExtensionDecl.Alike (converters : Converters) (a b : ExtensionDecl) : Prop where
  name : a.name = b.name
  target : a.target = b.target
  info : a.info = b.info
  typeParams : a.typeParams = b.typeParams
  members : List.Forall₂ (Member.Alike converters (a.name.getD a.target)) a.members b.members

/-- Variables that say the same. -/
structure VariableDecl.Alike (converters : Converters) (a b : VariableDecl) : Prop where
  name : a.name = b.name
  info : a.info = b.info
  type : a.type = b.type
  modifiers : a.modifiers.Perm b.modifiers
  initial : InitialAlike converters a.defaultValue a.value b.defaultValue b.value

/-- Declarations that say the same. -/
inductive Declaration.Alike (converters : Converters) : Declaration → Declaration → Prop where
  | classDecl {a b} (h : ClassDecl.Alike converters a b) :
      Alike converters (.classDecl a) (.classDecl b)
  | enumDecl {a b} (h : EnumDecl.Alike converters a b) :
      Alike converters (.enumDecl a) (.enumDecl b)
  | mixinDecl {a b} (h : MixinDecl.Alike converters a b) :
      Alike converters (.mixinDecl a) (.mixinDecl b)
  | extensionDecl {a b} (h : ExtensionDecl.Alike converters a b) :
      Alike converters (.extensionDecl a) (.extensionDecl b)
  | functionDecl {a b} (h : Callable.Alike a b) :
      Alike converters (.functionDecl a) (.functionDecl b)
  | variable {a b} (h : VariableDecl.Alike converters a b) :
      Alike converters (.variable a) (.variable b)

/-! ### Parts that several kinds share -/

/-- Lists of records that describe the same nodes are alike one by one. -/
theorem forall₂_alike_iff {α β : Type} {describes : α → β → Prop} {alike : α → α → Prop}
    (h : ∀ record node other, describes record node → (describes other node ↔ alike record other))
    {records others : List α} {nodes : List β} (hrecords : List.Forall₂ describes records nodes) :
    List.Forall₂ describes others nodes ↔ List.Forall₂ alike records others := by
  induction hrecords generalizing others with
  | nil => rw [List.forall₂_nil_right_iff, List.forall₂_nil_left_iff]
  | cons hrecord hrest ih =>
    rw [List.forall₂_cons_right_iff, List.forall₂_cons_left_iff]
    constructor
    · rintro ⟨other, more, hother, hmore, rfl⟩
      exact ⟨other, more, (h _ _ _ hrecord).mp hother, ih.mp hmore, rfl⟩
    · rintro ⟨other, more, hother, hmore, rfl⟩
      exact ⟨other, more, (h _ _ _ hrecord).mpr hother, ih.mpr hmore, rfl⟩

/-- What expresses the same initial value is alike. -/
theorem Expresses.alike_iff {converters : Converters} {defaultValue defaultValue' : Option String}
    {value value' : Option Value} {expression : Option String}
    (h : Expresses converters defaultValue value expression) :
    Expresses converters defaultValue' value' expression ↔
      InitialAlike converters defaultValue value defaultValue' value' := by
  constructor
  · intro h'
    cases h with
    | absent =>
      cases h'
      exact .same none none
    | expression text =>
      -- the other may have given a constant that is rendered as this text
      cases h' with
      | expression => exact .same (some text) none
      | constant hrender => exact .restored hrender
    | constant hrender =>
      cases h' with
      | expression => exact .rendered hrender
      | constant hrender' => exact .constants hrender hrender'
  · intro halike
    cases halike with
    | same => exact h
    | rendered hrender =>
      -- rendering is a function, so the constant expresses this text and no other
      obtain - | - | hrender' := h
      obtain rfl := Except.ok.inj (hrender.symm.trans hrender')
      exact .expression _
    | restored hrender =>
      cases h
      exact .constant hrender
    | constants hrender hrender' =>
      obtain - | - | hrender'' := h
      obtain rfl := Except.ok.inj (hrender.symm.trans hrender'')
      exact .constant hrender'

namespace Initializer

/-- The place of a kind in the written order. -/
def Kind.rank : Kind → Nat
  | .assert => 0
  | .field => 1
  | .superCall => 2
  | .redirect => 3

theorem Kind.rank_injective : Function.Injective Kind.rank := by
  intro a b h
  cases a <;> cases b <;> first | rfl | exact absurd h (by decide)

theorem rank_lower (entry : Initializer) :
    (Lowering.initializer entry).rank = entry.kind.rank := by
  cases entry <;> rfl

theorem lower_injective : Function.Injective Lowering.initializer := by
  intro a b h
  cases a <;> cases b <;> simp_all [Lowering.initializer, Lowering.arguments]
  all_goals
    rename_i a b
    obtain ⟨constructor, args, ⟨named⟩⟩ := a
    obtain ⟨constructor', args', ⟨named'⟩⟩ := b
    simp_all

/-- Lowering keeps the initializers of a kind together. -/
theorem filter_rank_map (kind : Kind) (entries : List Initializer) :
    (entries.map Lowering.initializer).filter (fun entry => entry.rank == kind.rank) =
      (entries.filter fun entry => decide (entry.kind = kind)).map Lowering.initializer := by
  rw [List.filter_map]
  congr 1
  refine List.filter_congr fun entry _ => ?_
  rw [Function.comp_apply, rank_lower, Bool.eq_iff_iff, beq_iff_eq, decide_eq_true_iff]
  exact Kind.rank_injective.eq_iff

/-- **Initializers are written alike exactly when they agree kind by kind.** -/
theorem arrange_eq_iff (a b : List Initializer) :
    DartSource.Initializer.arrange (b.map Lowering.initializer) =
        DartSource.Initializer.arrange (a.map Lowering.initializer) ↔
      ∀ kind, a.filter (fun entry => decide (entry.kind = kind)) =
        b.filter fun entry => decide (entry.kind = kind) := by
  constructor
  · intro h kind
    -- what is written of a kind is what was given of it
    have hlt : kind.rank < 4 := by cases kind <;> decide
    have hfilter := congrArg (List.filter fun entry => entry.rank == kind.rank) h
    unfold DartSource.Initializer.arrange at hfilter
    rw [filter_byRank hlt, filter_byRank hlt, filter_rank_map, filter_rank_map] at hfilter
    exact (List.map_injective_iff.mpr lower_injective hfilter).symm
  · intro h
    refine DartSource.Initializer.arrange_congr fun r hr => ?_
    -- every place in the written order belongs to a kind
    have hkind : ∃ kind : Kind, kind.rank = r := by
      match r, hr with
      | 0, _ => exact ⟨.assert, rfl⟩
      | 1, _ => exact ⟨.field, rfl⟩
      | 2, _ => exact ⟨.superCall, rfl⟩
      | 3, _ => exact ⟨.redirect, rfl⟩
    obtain ⟨kind, rfl⟩ := hkind
    rw [filter_rank_map, filter_rank_map, h kind]

end Initializer

/-! ### Records that describe the same node

In each of the following, one direction chains the equations of two descriptions through the node
that they share, and the other rewrites the description of a node along the differences. -/

theorem Param.Describes.alike_iff {record other : Param} {node : DartSource.Param}
    (h : record.Describes node) : other.Describes node ↔ record.Alike other := by
  constructor
  · intro h'
    exact
      { name := h.name.symm.trans h'.name
        type := h.type.symm.trans h'.type
        modifiers := h.keywords.perm h'.keywords rfl
        defaultValue := h.defaultValue.symm.trans h'.defaultValue }
  · intro halike
    exact
      { name := h.name.trans halike.name
        type := h.type.trans halike.type
        keywords := h.keywords.of_perm halike.modifiers
        defaultValue := h.defaultValue.trans halike.defaultValue
        legal := h.legal }

theorem Param.forall₂_alike_iff {records others : List Param} {nodes : List DartSource.Param}
    (h : List.Forall₂ Param.Describes records nodes) :
    List.Forall₂ Param.Describes others nodes ↔ List.Forall₂ Param.Alike records others :=
  Record.forall₂_alike_iff (fun _ _ _ hdescribes => hdescribes.alike_iff) h

/-- Callables differ from other kinds in that their keywords are checked by those who hold them. -/
theorem Callable.Describes.alike_iff {record other : Callable} {callable : DartSource.Callable}
    (h : record.Describes callable) (hperm : record.modifiers.Perm other.modifiers) :
    other.Describes callable ↔ record.Alike other := by
  constructor
  · intro h'
    exact
      { name := h.name.symm.trans h'.name
        info := h.info.symm.trans h'.info
        returns := h.returns.symm.trans h'.returns
        typeParams := h.typeParams.symm.trans h'.typeParams
        params := (Param.forall₂_alike_iff h.params).mp h'.params
        modifiers := hperm
        multiline := h.multiline.symm.trans h'.multiline
        body := h.body.symm.trans h'.body }
  · intro halike
    exact
      { name := h.name.trans halike.name
        info := h.info.trans halike.info
        returns := h.returns.trans halike.returns
        typeParams := h.typeParams.trans halike.typeParams
        params := (Param.forall₂_alike_iff h.params).mpr halike.params
        multiline := h.multiline.trans halike.multiline
        body := h.body.trans halike.body }

theorem Callable.DescribesMethod.alike_iff {record other : Callable} {node : DartSource.Method}
    (h : record.DescribesMethod node) : other.DescribesMethod node ↔ record.Alike other := by
  constructor
  · intro h'
    exact (h.callable.alike_iff (h.keywords.perm h'.keywords rfl)).mp h'.callable
  · intro halike
    exact
      { callable := (h.callable.alike_iff halike.modifiers).mpr halike
        keywords := h.keywords.of_perm halike.modifiers
        legal := h.legal }

theorem Callable.DescribesFunction.alike_iff {record other : Callable} {node : FunctionDecl}
    (h : record.DescribesFunction node) : other.DescribesFunction node ↔ record.Alike other := by
  constructor
  · intro h'
    exact (h.callable.alike_iff (h.keywords.perm h'.keywords rfl)).mp h'.callable
  · intro halike
    exact
      { callable := (h.callable.alike_iff halike.modifiers).mpr halike
        keywords := h.keywords.of_perm halike.modifiers
        legal := h.legal }

theorem Property.Describes.alike_iff {converters : Converters} {record other : Property}
    {node : DartSource.Property} (h : record.Describes converters node) :
    other.Describes converters node ↔ record.Alike converters other := by
  constructor
  · intro h'
    exact
      { name := h.name.symm.trans h'.name
        info := h.info.symm.trans h'.info
        type := h.type.symm.trans h'.type
        modifiers := h.keywords.perm h'.keywords rfl
        initial := h.initial.alike_iff.mp h'.initial }
  · intro halike
    exact
      { name := h.name.trans halike.name
        info := h.info.trans halike.info
        type := h.type.trans halike.type
        keywords := h.keywords.of_perm halike.modifiers
        initial := h.initial.alike_iff.mpr halike.initial
        legal := h.legal }

theorem Getter.Describes.alike_iff {record other : Getter} {node : DartSource.Getter}
    (h : record.Describes node) : other.Describes node ↔ record.Alike other := by
  constructor
  · intro h'
    exact
      { name := h.name.symm.trans h'.name
        info := h.info.symm.trans h'.info
        type := h.type.symm.trans h'.type
        modifiers := h.keywords.perm h'.keywords rfl
        body := h.body.symm.trans h'.body }
  · intro halike
    exact
      { name := h.name.trans halike.name
        info := h.info.trans halike.info
        type := h.type.trans halike.type
        keywords := h.keywords.of_perm halike.modifiers
        body := h.body.trans halike.body
        legal := h.legal }

theorem Setter.Describes.alike_iff {record other : Setter} {node : DartSource.Setter}
    (h : record.Describes node) : other.Describes node ↔ record.Alike other := by
  constructor
  · intro h'
    exact
      { name := h.name.symm.trans h'.name
        info := h.info.symm.trans h'.info
        param := h.param.alike_iff.mp h'.param
        modifiers := h.keywords.perm h'.keywords rfl
        body := h.body.symm.trans h'.body }
  · intro halike
    exact
      { name := h.name.trans halike.name
        info := h.info.trans halike.info
        param := h.param.alike_iff.mpr halike.param
        keywords := h.keywords.of_perm halike.modifiers
        body := h.body.trans halike.body
        legal := h.legal }

theorem Constructor.Describes.alike_iff {owner : String} {record other : Constructor}
    {node : DartSource.Constructor} (h : record.Describes owner node) :
    other.Describes owner node ↔ record.Alike owner other := by
  constructor
  · intro h'
    exact
      { className := h.className.symm.trans h'.className
        name := h.name.symm.trans h'.name
        info := h.info.symm.trans h'.info
        params := (Param.forall₂_alike_iff h.params).mp h'.params
        modifiers := h.keywords.perm h'.keywords rfl
        multiline := h.multiline.symm.trans h'.multiline
        -- both lists of initializers are arranged into that of the node
        initializers :=
          (Initializer.arrange_eq_iff _ _).mp (h'.initializers.symm.trans h.initializers)
        body := h.body.symm.trans h'.body }
  · intro halike
    exact
      { className := h.className.trans halike.className
        name := h.name.trans halike.name
        info := h.info.trans halike.info
        params := (Param.forall₂_alike_iff h.params).mpr halike.params
        keywords := h.keywords.of_perm halike.modifiers
        multiline := h.multiline.trans halike.multiline
        initializers :=
          h.initializers.trans ((Initializer.arrange_eq_iff _ _).mpr halike.initializers).symm
        body := h.body.trans halike.body
        legal := h.legal }

theorem Member.Describes.alike_iff {converters : Converters} {owner : String}
    {record other : Member} {node : DartSource.Member}
    (h : record.Describes converters owner node) :
    other.Describes converters owner node ↔ record.Alike converters owner other := by
  cases h with
  | property h =>
    constructor
    · intro h'
      cases h' with
      | property h' => exact .property (h.alike_iff.mp h')
    · intro halike
      cases halike with
      | property halike => exact .property (h.alike_iff.mpr halike)
  | getter h =>
    constructor
    · intro h'
      cases h' with
      | getter h' => exact .getter (h.alike_iff.mp h')
    · intro halike
      cases halike with
      | getter halike => exact .getter (h.alike_iff.mpr halike)
  | setter h =>
    constructor
    · intro h'
      cases h' with
      | setter h' => exact .setter (h.alike_iff.mp h')
    · intro halike
      cases halike with
      | setter halike => exact .setter (h.alike_iff.mpr halike)
  | constructor h =>
    constructor
    · intro h'
      cases h' with
      | constructor h' => exact .constructor (h.alike_iff.mp h')
    · intro halike
      cases halike with
      | constructor halike => exact .constructor (h.alike_iff.mpr halike)
  | method h =>
    constructor
    · intro h'
      cases h' with
      | method h' => exact .method (h.alike_iff.mp h')
    · intro halike
      cases halike with
      | method halike => exact .method (h.alike_iff.mpr halike)

theorem Member.forall₂_alike_iff {converters : Converters} {owner : String}
    {records others : List Member} {nodes : List DartSource.Member}
    (h : List.Forall₂ (Member.Describes converters owner) records nodes) :
    List.Forall₂ (Member.Describes converters owner) others nodes ↔
      List.Forall₂ (Member.Alike converters owner) records others :=
  Record.forall₂_alike_iff (fun _ _ _ hdescribes => hdescribes.alike_iff) h

theorem ClassDecl.Describes.alike_iff {converters : Converters} {record other : ClassDecl}
    {node : DartSource.ClassDecl} (h : record.Describes converters node) :
    other.Describes converters node ↔ record.Alike converters other := by
  constructor
  · intro h'
    have hname : record.name = other.name := h.name.symm.trans h'.name
    exact
      { name := hname
        info := h.info.symm.trans h'.info
        modifiers := h.keywords.perm h'.keywords rfl
        typeParams := h.typeParams.symm.trans h'.typeParams
        superclass := h.superclass.symm.trans h'.superclass
        mixins := h.mixins.symm.trans h'.mixins
        interfaces := h.interfaces.symm.trans h'.interfaces
        members := (Member.forall₂_alike_iff h.members).mp (hname ▸ h'.members) }
  · intro halike
    exact
      { name := h.name.trans halike.name
        info := h.info.trans halike.info
        keywords := h.keywords.of_perm halike.modifiers
        typeParams := h.typeParams.trans halike.typeParams
        superclass := h.superclass.trans halike.superclass
        mixins := h.mixins.trans halike.mixins
        interfaces := h.interfaces.trans halike.interfaces
        members := halike.name ▸ (Member.forall₂_alike_iff h.members).mpr halike.members
        legal := h.legal }

/-- Two constants that name the same constructor make the same call exactly when their labelled
arguments are the same and their positional ones are as far as it matters. -/
theorem EnumConstant.call_eq_iff {a b : EnumConstant}
    (hconstructor : a.constructor = b.constructor) :
    (if b.calls then some (⟨b.args.getD [], b.named.entries⟩ : Arguments) else none) =
        (if a.calls then some ⟨a.args.getD [], a.named.entries⟩ else none) ↔
      a.named = b.named ∧
        (a.args = b.args ∨
          (a.constructor.isSome ∨ a.named.entries ≠ []) ∧ a.args.getD [] = b.args.getD []) := by
  obtain ⟨_, _, constructor, args, ⟨named⟩⟩ := a
  obtain ⟨_, _, _, args', ⟨named'⟩⟩ := b
  obtain rfl : constructor = _ := hconstructor
  -- each of the three ways of making a call is there or not, on either side
  cases constructor <;> cases args <;> cases args' <;> cases named <;> cases named' <;>
    simp [calls, eq_comm, and_comm]

theorem EnumConstant.Describes.alike_iff {record other : EnumConstant}
    {node : DartSource.EnumConstant} (h : record.Describes node) :
    other.Describes node ↔ record.Alike other := by
  constructor
  · intro h'
    have hconstructor : record.constructor = other.constructor :=
      h.constructor.symm.trans h'.constructor
    -- the two calls are the same, being that of the node
    obtain ⟨hnamed, hargs⟩ :=
      (call_eq_iff hconstructor).mp (h'.arguments.symm.trans h.arguments)
    exact
      { name := h.name.symm.trans h'.name
        info := h.info.symm.trans h'.info
        constructor := hconstructor
        named := hnamed
        args := hargs }
  · intro halike
    have hcall := (call_eq_iff halike.constructor).mpr ⟨halike.named, halike.args⟩
    exact
      { name := h.name.trans halike.name
        info := h.info.trans halike.info
        constructor := h.constructor.trans halike.constructor
        arguments := h.arguments.trans hcall.symm
        legal := h.legal }

theorem EnumDecl.Describes.alike_iff {converters : Converters} {record other : EnumDecl}
    {node : DartSource.EnumDecl} (h : record.Describes converters node) :
    other.Describes converters node ↔ record.Alike converters other := by
  have hconstants : ∀ {others}, List.Forall₂ EnumConstant.Describes others node.constants ↔
      List.Forall₂ EnumConstant.Alike record.constants others :=
    Record.forall₂_alike_iff (fun _ _ _ hdescribes => hdescribes.alike_iff) h.constants
  constructor
  · intro h'
    have hname : record.name = other.name := h.name.symm.trans h'.name
    exact
      { name := hname
        info := h.info.symm.trans h'.info
        typeParams := h.typeParams.symm.trans h'.typeParams
        mixins := h.mixins.symm.trans h'.mixins
        interfaces := h.interfaces.symm.trans h'.interfaces
        constants := hconstants.mp h'.constants
        members := (Member.forall₂_alike_iff h.members).mp (hname ▸ h'.members) }
  · intro halike
    exact
      { name := h.name.trans halike.name
        info := h.info.trans halike.info
        typeParams := h.typeParams.trans halike.typeParams
        mixins := h.mixins.trans halike.mixins
        interfaces := h.interfaces.trans halike.interfaces
        constants := hconstants.mpr halike.constants
        members := halike.name ▸ (Member.forall₂_alike_iff h.members).mpr halike.members
        legal := h.legal }

theorem MixinDecl.Describes.alike_iff {converters : Converters} {record other : MixinDecl}
    {node : DartSource.MixinDecl} (h : record.Describes converters node) :
    other.Describes converters node ↔ record.Alike converters other := by
  constructor
  · intro h'
    have hname : record.name = other.name := h.name.symm.trans h'.name
    exact
      { name := hname
        info := h.info.symm.trans h'.info
        modifiers := h.keywords.perm h'.keywords rfl
        typeParams := h.typeParams.symm.trans h'.typeParams
        constraints := h.constraints.symm.trans h'.constraints
        interfaces := h.interfaces.symm.trans h'.interfaces
        members := (Member.forall₂_alike_iff h.members).mp (hname ▸ h'.members) }
  · intro halike
    exact
      { name := h.name.trans halike.name
        info := h.info.trans halike.info
        keywords := h.keywords.of_perm halike.modifiers
        typeParams := h.typeParams.trans halike.typeParams
        constraints := h.constraints.trans halike.constraints
        interfaces := h.interfaces.trans halike.interfaces
        members := halike.name ▸ (Member.forall₂_alike_iff h.members).mpr halike.members
        legal := h.legal }

theorem ExtensionDecl.Describes.alike_iff {converters : Converters}
    {record other : ExtensionDecl} {node : DartSource.ExtensionDecl}
    (h : record.Describes converters node) :
    other.Describes converters node ↔ record.Alike converters other := by
  constructor
  · intro h'
    have hname : record.name = other.name := h.name.symm.trans h'.name
    have htarget : record.target = other.target := h.target.symm.trans h'.target
    -- members are described for an owner, which is the name or else the target
    have hmembers := h'.members
    rw [← hname, ← htarget] at hmembers
    exact
      { name := hname
        target := htarget
        info := h.info.symm.trans h'.info
        typeParams := h.typeParams.symm.trans h'.typeParams
        members := (Member.forall₂_alike_iff h.members).mp hmembers }
  · intro halike
    have hmembers := (Member.forall₂_alike_iff h.members).mpr halike.members
    rw [halike.name, halike.target] at hmembers
    exact
      { target := h.target.trans halike.target
        name := h.name.trans halike.name
        info := h.info.trans halike.info
        typeParams := h.typeParams.trans halike.typeParams
        members := hmembers
        legal := h.legal }

theorem VariableDecl.Describes.alike_iff {converters : Converters} {record other : VariableDecl}
    {node : DartSource.VariableDecl} (h : record.Describes converters node) :
    other.Describes converters node ↔ record.Alike converters other := by
  constructor
  · intro h'
    exact
      { name := h.name.symm.trans h'.name
        info := h.info.symm.trans h'.info
        type := h.type.symm.trans h'.type
        modifiers := h.keywords.perm h'.keywords rfl
        initial := h.initial.alike_iff.mp h'.initial }
  · intro halike
    exact
      { name := h.name.trans halike.name
        info := h.info.trans halike.info
        type := h.type.trans halike.type
        keywords := h.keywords.of_perm halike.modifiers
        initial := h.initial.alike_iff.mpr halike.initial
        legal := h.legal }

/-- **The records that describe a declaration are those that are like one of them.** -/
theorem Declaration.Describes.alike_iff {converters : Converters} {record other : Declaration}
    {node : DartSource.Declaration} (h : record.Describes converters node) :
    other.Describes converters node ↔ record.Alike converters other := by
  cases h with
  | classDecl h =>
    constructor
    · intro h'
      cases h' with
      | classDecl h' => exact .classDecl (h.alike_iff.mp h')
    · intro halike
      cases halike with
      | classDecl halike => exact .classDecl (h.alike_iff.mpr halike)
  | enumDecl h =>
    constructor
    · intro h'
      cases h' with
      | enumDecl h' => exact .enumDecl (h.alike_iff.mp h')
    · intro halike
      cases halike with
      | enumDecl halike => exact .enumDecl (h.alike_iff.mpr halike)
  | mixinDecl h =>
    constructor
    · intro h'
      cases h' with
      | mixinDecl h' => exact .mixinDecl (h.alike_iff.mp h')
    · intro halike
      cases halike with
      | mixinDecl halike => exact .mixinDecl (h.alike_iff.mpr halike)
  | extensionDecl h =>
    constructor
    · intro h'
      cases h' with
      | extensionDecl h' => exact .extensionDecl (h.alike_iff.mp h')
    · intro halike
      cases halike with
      | extensionDecl halike => exact .extensionDecl (h.alike_iff.mpr halike)
  | functionDecl h =>
    constructor
    · intro h'
      cases h' with
      | functionDecl h' => exact .functionDecl (h.alike_iff.mp h')
    · intro halike
      cases halike with
      | functionDecl halike => exact .functionDecl (h.alike_iff.mpr halike)
  | «variable» h =>
    constructor
    · intro h'
      cases h' with
      | «variable» h' => exact .variable (h.alike_iff.mp h')
    · intro halike
      cases halike with
      | «variable» halike => exact .variable (h.alike_iff.mpr halike)

end DartSource.Record
