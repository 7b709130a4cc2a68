import DartSource.Proofs.Lowering.Alike

/-!
# Lowering loses nothing

A node remembers its record. `Declaration.record` reads a record back from the fields of a node
alone, without converters, paths or anything else that lowering had at hand, and the record that is
read back is like the one that the node came from. It even describes the node again
(`Record.Declaration.Describes.record`), so that the records of a node are, by
`Record.Declaration.Describes.alike_iff`, the records that are like the one read back.

The main statement is `Lowering.declaration_determines_record`.
-/

namespace DartSource

/-! ### Reading records back -/

def Param.record (node : Param) : Record.Param :=
  { name := node.name
    type := node.type
    modifiers := Acceptance.spelled node.flags
    defaultValue := node.defaultValue }

/-- The record of a callable, given the keywords of the node that holds it. -/
def Callable.record (modifiers : List Record.Modifier) (callable : Callable) : Record.Callable :=
  { name := callable.name
    info := callable.info
    returns := callable.returns
    typeParams := callable.typeParams
    params := callable.params.map Param.record
    modifiers
    multiline := callable.multiline
    body := callable.body }

def Property.record (node : Property) : Record.Property :=
  { name := node.name
    info := node.info
    type := node.type
    modifiers := Acceptance.spelled node.flags
    defaultValue := node.defaultValue }

def Getter.record (node : Getter) : Record.Getter :=
  { name := node.name
    info := node.info
    type := node.type
    modifiers := Acceptance.spelled node.flags
    body := node.body }

def Setter.record (node : Setter) : Record.Setter :=
  { name := node.name
    info := node.info
    param := node.param.record
    modifiers := Acceptance.spelled node.flags
    body := node.body }

def Initializer.record : Initializer → Record.Initializer
  | .assert condition message => .assert condition message
  | .field name value => .field name value
  | .superCall constructor arguments =>
    .superCall ⟨constructor, arguments.positional, ⟨arguments.named⟩⟩
  | .redirect constructor arguments =>
    .redirect ⟨constructor, arguments.positional, ⟨arguments.named⟩⟩

def Constructor.record (node : Constructor) : Record.Constructor :=
  { className := some node.className
    name := node.name
    info := node.info
    params := node.params.map Param.record
    modifiers := Acceptance.spelled node.flags
    multiline := node.multiline
    initializers := node.initializers.map Initializer.record
    body := node.body }

def Member.record : Member → Record.Member
  | .property node => .property node.record
  | .getter node => .getter node.record
  | .setter node => .setter node.record
  | .constructor node => .constructor node.record
  | .method node => .method (node.callable.record (Acceptance.spelled node.flags))

def ClassDecl.record (node : ClassDecl) : Record.ClassDecl :=
  { name := node.name
    info := node.info
    modifiers := Acceptance.spelled node.flags
    typeParams := node.typeParams
    superclass := node.superclass
    mixins := node.mixins
    interfaces := node.interfaces
    members := node.members.map Member.record }

/-- A constant that calls a constructor is given its arguments, though there be none. -/
def EnumConstant.record (node : EnumConstant) : Record.EnumConstant :=
  { name := node.name
    info := node.info
    constructor := node.constructor
    args := node.arguments.map Arguments.positional
    named := ⟨(node.arguments.map Arguments.named).getD []⟩ }

def EnumDecl.record (node : EnumDecl) : Record.EnumDecl :=
  { name := node.name
    info := node.info
    typeParams := node.typeParams
    mixins := node.mixins
    interfaces := node.interfaces
    constants := node.constants.map EnumConstant.record
    members := node.members.map Member.record }

def MixinDecl.record (node : MixinDecl) : Record.MixinDecl :=
  { name := node.name
    info := node.info
    modifiers := Acceptance.spelled node.flags
    typeParams := node.typeParams
    constraints := node.constraints
    interfaces := node.interfaces
    members := node.members.map Member.record }

def ExtensionDecl.record (node : ExtensionDecl) : Record.ExtensionDecl :=
  { name := node.name
    target := node.target
    info := node.info
    typeParams := node.typeParams
    members := node.members.map Member.record }

def VariableDecl.record (node : VariableDecl) : Record.VariableDecl :=
  { name := node.name
    info := node.info
    type := node.type
    modifiers := Acceptance.spelled node.flags
    defaultValue := node.value }

/-- The record that is read back from a declaration. -/
def Declaration.record : Declaration → Record.Declaration
  | .classDecl node => .classDecl node.record
  | .enumDecl node => .enumDecl node.record
  | .mixinDecl node => .mixinDecl node.record
  | .extensionDecl node => .extensionDecl node.record
  | .functionDecl node =>
    .functionDecl (node.callable.record (Acceptance.spelled node.callable.flags))
  | .variable node => .variable node.record

namespace Record

/-! ### The record that is read back describes the node -/

/-- An expression expresses itself, and no expression expresses no value. -/
theorem expresses_self (converters : Converters) (expression : Option String) :
    Expresses converters expression none expression := by
  cases expression with
  | none => exact .absent
  | some text => exact .expression text

/-- Lists are read back one by one. -/
theorem forall₂_map_record {α β : Type} {describes : α → β → Prop} {readBack : β → α}
    (h : ∀ record node, describes record node → describes (readBack node) node)
    {records : List α} {nodes : List β} (hrecords : List.Forall₂ describes records nodes) :
    List.Forall₂ describes (nodes.map readBack) nodes := by
  induction hrecords with
  | nil => exact .nil
  | cons hrecord hrest ih => exact .cons (h _ _ hrecord) ih

theorem Param.Describes.record {record : Param} {node : DartSource.Param}
    (h : record.Describes node) : node.record.Describes node where
  name := rfl
  type := rfl
  keywords := Acceptance.spells_spelled rfl (by decide)
  defaultValue := rfl
  legal := h.legal

theorem Callable.Describes.record {record : Callable} {callable : DartSource.Callable}
    (h : record.Describes callable) (modifiers : List Modifier) :
    (callable.record modifiers).Describes callable where
  name := rfl
  info := rfl
  returns := rfl
  typeParams := rfl
  params := forall₂_map_record (fun _ _ hparam => hparam.record) h.params
  multiline := rfl
  body := rfl

theorem Property.Describes.record {converters : Converters} {record : Property}
    {node : DartSource.Property} (h : record.Describes converters node) :
    node.record.Describes converters node where
  name := rfl
  info := rfl
  type := rfl
  keywords := Acceptance.spells_spelled rfl (by decide)
  initial := expresses_self converters node.defaultValue
  legal := h.legal

theorem Getter.Describes.record {record : Getter} {node : DartSource.Getter}
    (h : record.Describes node) : node.record.Describes node where
  name := rfl
  info := rfl
  type := rfl
  keywords := Acceptance.spells_spelled rfl (by decide)
  body := rfl
  legal := h.legal

theorem Setter.Describes.record {record : Setter} {node : DartSource.Setter}
    (h : record.Describes node) : node.record.Describes node where
  name := rfl
  info := rfl
  param := h.param.record
  keywords := Acceptance.spells_spelled rfl (by decide)
  body := rfl
  legal := h.legal

theorem lower_record (entry : DartSource.Initializer) :
    Lowering.initializer entry.record = entry := by
  cases entry <;> rfl

/-- The initializers of a node are in written order already, and stay in it. -/
theorem Constructor.Describes.record {owner : String} {record : Constructor}
    {node : DartSource.Constructor} (h : record.Describes owner node) :
    node.record.Describes owner node where
  className := rfl
  name := rfl
  info := rfl
  params := forall₂_map_record (fun _ _ hparam => hparam.record) h.params
  keywords := Acceptance.spells_spelled rfl (by decide)
  multiline := rfl
  initializers := by
    have hback : (node.initializers.map DartSource.Initializer.record).map Lowering.initializer =
        node.initializers := by
      rw [List.map_map]
      exact (List.map_congr_left fun entry _ => lower_record entry).trans (List.map_id _)
    -- arranging what is arranged already changes nothing
    have htwice := DartSource.Initializer.arrange_arrange_append
      (record.initializers.map Lowering.initializer) []
    rw [List.append_nil, List.append_nil, ← h.initializers] at htwice
    rw [DartSource.Constructor.record, hback, htwice]
  body := rfl
  legal := h.legal

theorem Member.Describes.record {converters : Converters} {owner : String} {record : Member}
    {node : DartSource.Member} (h : record.Describes converters owner node) :
    node.record.Describes converters owner node := by
  cases h with
  | property h => exact .property h.record
  | getter h => exact .getter h.record
  | setter h => exact .setter h.record
  | constructor h => exact .constructor h.record
  | method h =>
    exact .method
      { callable := h.callable.record _
        keywords := Acceptance.spells_spelled rfl (by decide)
        legal := h.legal }

theorem ClassDecl.Describes.record {converters : Converters} {record : ClassDecl}
    {node : DartSource.ClassDecl} (h : record.Describes converters node) :
    node.record.Describes converters node where
  name := rfl
  info := rfl
  keywords := Acceptance.spells_spelled rfl (by decide)
  typeParams := rfl
  superclass := rfl
  mixins := rfl
  interfaces := rfl
  members := by
    have hmembers := forall₂_map_record (fun _ _ hmember => hmember.record) h.members
    rw [← h.name] at hmembers
    exact hmembers
  legal := h.legal

/-- A constant without a call names no constructor, as a record that names one makes a call. -/
theorem EnumConstant.Describes.record {record : EnumConstant} {node : DartSource.EnumConstant}
    (h : record.Describes node) : node.record.Describes node where
  name := rfl
  info := rfl
  constructor := rfl
  arguments := by
    have harguments := h.arguments
    have hconstructor := h.constructor
    by_cases hcalls : record.calls = true
    · -- the call is there, with its arguments given
      rw [if_pos hcalls] at harguments
      rw [harguments, if_pos]
      · simp [DartSource.EnumConstant.record, harguments]
      · simp [DartSource.EnumConstant.record, calls, harguments]
    · -- there is no call, so no constructor is named that would make one
      rw [if_neg hcalls] at harguments
      rw [harguments, if_neg]
      have hnone : record.constructor = none := by
        simp only [calls, Bool.or_eq_true, not_or] at hcalls
        simpa using hcalls.1.1
      simp [DartSource.EnumConstant.record, calls, harguments, hconstructor, hnone]
  legal := h.legal

theorem EnumDecl.Describes.record {converters : Converters} {record : EnumDecl}
    {node : DartSource.EnumDecl} (h : record.Describes converters node) :
    node.record.Describes converters node where
  name := rfl
  info := rfl
  typeParams := rfl
  mixins := rfl
  interfaces := rfl
  constants := forall₂_map_record (fun _ _ hconstant => hconstant.record) h.constants
  members := by
    have hmembers := forall₂_map_record (fun _ _ hmember => hmember.record) h.members
    rw [← h.name] at hmembers
    exact hmembers
  legal := h.legal

theorem MixinDecl.Describes.record {converters : Converters} {record : MixinDecl}
    {node : DartSource.MixinDecl} (h : record.Describes converters node) :
    node.record.Describes converters node where
  name := rfl
  info := rfl
  keywords := Acceptance.spells_spelled rfl (by decide)
  typeParams := rfl
  constraints := rfl
  interfaces := rfl
  members := by
    have hmembers := forall₂_map_record (fun _ _ hmember => hmember.record) h.members
    rw [← h.name] at hmembers
    exact hmembers
  legal := h.legal

theorem ExtensionDecl.Describes.record {converters : Converters} {record : ExtensionDecl}
    {node : DartSource.ExtensionDecl} (h : record.Describes converters node) :
    node.record.Describes converters node where
  target := rfl
  name := rfl
  info := rfl
  typeParams := rfl
  members := by
    have hmembers := forall₂_map_record (fun _ _ hmember => hmember.record) h.members
    rw [← h.name, ← h.target] at hmembers
    exact hmembers
  legal := h.legal

theorem VariableDecl.Describes.record {converters : Converters} {record : VariableDecl}
    {node : DartSource.VariableDecl} (h : record.Describes converters node) :
    node.record.Describes converters node where
  name := rfl
  info := rfl
  type := rfl
  keywords := Acceptance.spells_spelled rfl (by decide)
  initial := expresses_self converters node.value
  legal := h.legal

/-- **The record that is read back from a described declaration describes it too.** -/
theorem Declaration.Describes.record {converters : Converters} {record : Declaration}
    {node : DartSource.Declaration} (h : record.Describes converters node) :
    node.record.Describes converters node := by
  cases h with
  | classDecl h => exact .classDecl h.record
  | enumDecl h => exact .enumDecl h.record
  | mixinDecl h => exact .mixinDecl h.record
  | extensionDecl h => exact .extensionDecl h.record
  | functionDecl h =>
    exact .functionDecl
      { callable := h.callable.record _
        keywords := Acceptance.spells_spelled rfl (by decide)
        legal := h.legal }
  | «variable» h => exact .variable h.record

end Record

/-! ### The main statement -/

/-- **Lowering is faithful.** The record that is read back from a lowered declaration is like the
record that was lowered, and a record lowers to the same declaration, wherever it stands, exactly
when it is like that record. -/
theorem Lowering.declaration_determines_record {converters : Converters} {path : RecordPath}
    {record : Record.Declaration} {node : Declaration}
    (h : Lowering.declaration converters path record = .ok node) :
    record.Alike converters node.record ∧
      ∀ (path' : RecordPath) (other : Record.Declaration),
        Lowering.declaration converters path' other = .ok node ↔
          record.Alike converters other := by
  have hdescribes := Lowering.declaration_eq_ok_iff.mp h
  -- the record read back describes the node too, and is therefore like the one given
  refine ⟨hdescribes.alike_iff.mp hdescribes.record, fun path' other => ?_⟩
  rw [Lowering.declaration_eq_ok_iff]
  exact hdescribes.alike_iff

/-- A class with its keywords in another order than its flags, a constant for a value, and a
constructor that leaves out its type and gives its initializers from last to first. -/
theorem Lowering.declaration_determines_record_of_class :
    let record : Record.Declaration := .classDecl
      { name := "Point"
        modifiers := [.final, .abstract]
        members :=
          [.property
            { name := "origin"
              modifiers := [.const, .static]
              value := some (.list [.int 0, .null]) },
           .constructor
            { initializers := [.superCall {}, .field "x" "0", .assert "true" none] }] }
    ∃ node, Lowering.declaration {} {} record = .ok node ∧
      record.Alike {} node.record ∧
        ∀ (path : RecordPath) (other : Record.Declaration),
          Lowering.declaration {} path other = .ok node ↔ record.Alike {} other := by
  intro record
  have hlower : Lowering.declaration {} {} record = .ok (.classDecl
      { name := "Point"
        isAbstract := true
        modifier := some .final
        members :=
          [.property
            { name := "origin", isStatic := true, isConst := true
              defaultValue := some "[0, null]" },
           .constructor
            { className := "Point"
              initializers :=
                [.assert "true" none, .field "x" "0", .superCall none {}] }] }) := rfl
  exact ⟨_, hlower, Lowering.declaration_determines_record hlower⟩

end DartSource
