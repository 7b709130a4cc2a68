import DartSource.Proofs.Const.MissingTags
import DartSource.Proofs.Lowering.Description
import DartSource.Proofs.Record.Notation

/-!
# Constants as initial values

A field or variable of a description may have a constant as its initial value. On its way into the
file the constant is read beside the other fields of its record, rendered with the converters at
hand, and written behind an equals sign. This module follows it from the table of the record to the
line that declares the node.

The three steps are settled one by one. Reading: the table of a record with one field more is read
as the record with the constant (`readMember_insert`, `readDeclaration_insert`). Rendering: it
succeeds where all custom types are known (`Record.Value.answers_render`). Lowering: the record is
then lowered as if the author had given the expression (`Lowering.Initializes`).

One constant does not get through. The field is optional, and null in an optional field stands for
nothing, so a null that is the whole constant leaves the record without a value
(`null_constant_dropped`). A null anywhere inside a constant is kept.
-/

namespace DartSource

/-! ### Reading a record with its constant -/

namespace Record

/-- The variable with everything that a field says, which is as much as a variable can say. -/
def Property.asVariable (record : Property) : VariableDecl :=
  { name := record.name
    info := record.info
    type := record.type
    modifiers := record.modifiers
    defaultValue := record.defaultValue
    value := record.value }

/-- A variable is read from the same fields as a field of a type. -/
theorem readVariable_eq (fields : Fields) :
    readVariable fields = (readProperty fields).map Property.asVariable := by
  unfold readVariable readProperty
  simp only [Option.bind_eq_bind, Option.map_bind, Function.comp_def]
  rfl

section Insert

variable {front rest : Fields} {value : Value}

theorem readMeta_insert (tree : Tree) :
    readMeta (front ++ ("value", tree) :: rest) = readMeta (front ++ rest) := by
  unfold readMeta readTexts
  rw [Fields.optional_insert_of_ne (by decide), Fields.withDefault_insert_of_ne (by decide)]

theorem readModifiers_insert (tree : Tree) :
    readModifiers (front ++ ("value", tree) :: rest) = readModifiers (front ++ rest) :=
  Fields.withDefault_insert_of_ne (by decide) _ _

/-- Where no field is called `value`, there is no constant. -/
theorem optional_value_of_notMem (hfresh : "value" ∉ (front ++ rest).map Prod.fst) :
    Fields.optional (front ++ rest) "value" readValue = some none := by
  rw [Fields.optional_eq, Fields.find?_of_notMem hfresh]
  rfl

theorem optional_value_insert (hfresh : "value" ∉ (front ++ rest).map Prod.fst)
    (hparts : ∀ part ∈ value.parts, part.Storable) :
    Fields.optional (front ++ ("value", value.tree) :: rest) "value" readValue =
      some value.kept? := by
  rw [Fields.optional_eq, Fields.find?_insert_self hfresh]
  exact Value.readOptional_tree hparts

theorem readProperty_insert {record : Property}
    (hfresh : "value" ∉ (front ++ rest).map Prod.fst)
    (hparts : ∀ part ∈ value.parts, part.Storable)
    (hread : readProperty (front ++ rest) = some record) :
    readProperty (front ++ ("value", value.tree) :: rest) =
      some { record with value := value.kept? } := by
  unfold readProperty at hread ⊢
  rw [optional_value_of_notMem hfresh] at hread
  rw [Fields.required_insert_of_ne (by decide), readMeta_insert,
    Fields.optional_insert_of_ne (by decide), readModifiers_insert,
    Fields.optional_insert_of_ne (by decide), optional_value_insert hfresh hparts]
  simp only [Option.bind_eq_bind, Option.bind_eq_some_iff] at hread ⊢
  obtain ⟨name, hname, info, hinfo, type, htype, modifiers, hmodifiers, expression, hexpression,
    absent, -, hrecord⟩ := hread
  obtain rfl := Option.some.inj hrecord
  exact ⟨name, hname, info, hinfo, type, htype, modifiers, hmodifiers, expression, hexpression,
    _, rfl, rfl⟩

theorem readVariable_insert {record : VariableDecl}
    (hfresh : "value" ∉ (front ++ rest).map Prod.fst)
    (hparts : ∀ part ∈ value.parts, part.Storable)
    (hread : readVariable (front ++ rest) = some record) :
    readVariable (front ++ ("value", value.tree) :: rest) =
      some { record with value := value.kept? } := by
  rw [readVariable_eq, Option.map_eq_some_iff] at hread
  obtain ⟨property, hproperty, rfl⟩ := hread
  rw [readVariable_eq, readProperty_insert hfresh hparts hproperty]
  rfl

/-- A member is read as a field where its kind says so. -/
theorem readMember_eq_property_iff {fields : Fields} {record : Property} :
    readMember (.table fields) = some (.property record) ↔
      fields.required "kind" (readKind memberKinds) = some "property" ∧
        readProperty fields = some record := by
  unfold readMember
  simp only [Fields.ofTable?_table, Option.bind_eq_bind, Option.bind_some,
    Option.bind_eq_some_iff]
  constructor
  · rintro ⟨kind, hkind, hread⟩
    by_cases hproperty : kind = "property"
    · subst hproperty
      obtain ⟨record', hrecord, hmember⟩ := Option.map_eq_some_iff.mp hread
      obtain rfl := Member.property.inj hmember
      exact ⟨hkind, hrecord⟩
    · -- what has another kind is read as another member
      rw [if_neg hproperty] at hread
      split_ifs at hread <;> simp at hread
  · rintro ⟨hkind, hrecord⟩
    exact ⟨"property", hkind, Option.map_eq_some_iff.mpr ⟨record, hrecord, rfl⟩⟩

/-- A declaration is read as a variable where its kind says so and everything in it can be kept. -/
theorem readDeclaration_eq_variable_iff {fields : Fields} {record : VariableDecl} :
    readDeclaration (.table fields) = some (.variable record) ↔
      (Tree.table fields).isReadable = true ∧ fields.required "kind" readText = some "variable" ∧
        readVariable fields = some record := by
  unfold readDeclaration
  by_cases hreadable : (Tree.table fields).isReadable = true
  · rw [if_pos hreadable, Fields.ofTable?_table]
    simp only [hreadable, true_and, Option.bind_eq_bind, Option.bind_some,
      Option.bind_eq_some_iff]
    constructor
    · rintro ⟨kind, hkind, hread⟩
      by_cases hvariable : kind = "variable"
      · subst hvariable
        obtain ⟨record', hrecord, hdeclaration⟩ := Option.map_eq_some_iff.mp hread
        obtain rfl := Declaration.variable.inj hdeclaration
        exact ⟨hkind, hrecord⟩
      · rw [if_neg hvariable] at hread
        split_ifs at hread <;> simp at hread
    · rintro ⟨hkind, hrecord⟩
      exact ⟨"variable", hkind, Option.map_eq_some_iff.mpr ⟨record, hrecord, rfl⟩⟩
  · simp [hreadable]

/-- **A field is read with its constant**, wherever this stands in the table. -/
theorem readMember_insert {record : Property} (hfresh : "value" ∉ (front ++ rest).map Prod.fst)
    (hparts : ∀ part ∈ value.parts, part.Storable)
    (hread : readMember (.table (front ++ rest)) = some (.property record)) :
    readMember (.table (front ++ ("value", value.tree) :: rest)) =
      some (.property { record with value := value.kept? }) := by
  obtain ⟨hkind, hrecord⟩ := readMember_eq_property_iff.mp hread
  refine readMember_eq_property_iff.mpr ⟨?_, readProperty_insert hfresh hparts hrecord⟩
  rw [Fields.required_insert_of_ne (by decide), hkind]

/-- **A variable is read with its constant**, wherever this stands in the table. -/
theorem readDeclaration_insert {record : VariableDecl}
    (hfresh : "value" ∉ (front ++ rest).map Prod.fst)
    (hparts : ∀ part ∈ value.parts, part.Storable)
    (hread : readDeclaration (.table (front ++ rest)) = some (.variable record)) :
    readDeclaration (.table (front ++ ("value", value.tree) :: rest)) =
      some (.variable { record with value := value.kept? }) := by
  obtain ⟨hreadable, hkind, hrecord⟩ := readDeclaration_eq_variable_iff.mp hread
  refine readDeclaration_eq_variable_iff.mpr
    ⟨?_, ?_, readVariable_insert hfresh hparts hrecord⟩
  · -- the constant can be kept like everything else
    rw [Tree.isReadable_table, List.all_append, Bool.and_eq_true] at hreadable ⊢
    rw [List.all_cons, value.isReadable_tree, Bool.true_and]
    exact hreadable
  · rw [Fields.required_insert_of_ne (by decide), hkind]

end Insert

end Record

/-! ### Lowering a record with its constant -/

namespace Lowering

/-- A record with a constant is lowered like the same record with an expression, and in every node
that comes out this expression is the initial value, at the end of the line that declares the
node. -/
structure Initializes {α β : Type} (lower : α → Except Failure β) (initial : β → Option String)
    (line : β → String) (constant spelled : α) (expression : String) : Prop where
  lower_eq : lower constant = lower spelled
  initial_eq : ∀ node, lower constant = .ok node → initial node = some expression
  line_eq : ∀ node, lower constant = .ok node →
    ∃ front, line node = front ++ " = " ++ expression ++ ";"

variable {converters : Converters} {value : Record.Value} {expression : String}

theorem initialValue_of_render (h : value.render converters = .ok expression) (path : RecordPath) :
    initialValue converters path none (some value) =
      initialValue converters path (some expression) none := by
  simp only [initialValue, h, atPath]
  rfl

/-- A record without an expression of its own has the rendering of its constant. -/
theorem eq_of_expresses {initial : Option String} (h : value.render converters = .ok expression)
    (hinitial : Record.Expresses converters none (some value) initial) :
    initial = some expression := by
  cases hinitial with
  | constant hrender =>
    rw [h] at hrender
    exact congrArg some (Except.ok.inj hrender).symm

/-- Nodes that write their initial value at the end of their line. -/
theorem Initializes.of_render {α β : Type} {lower : α → Except Failure β}
    {initial : β → Option String} {line : β → String} {constant spelled : α}
    (h : value.render converters = .ok expression) (hlower : lower constant = lower spelled)
    (hinitial : ∀ node, lower constant = .ok node →
      Record.Expresses converters none (some value) (initial node))
    (hline : ∀ node, ∃ front, line node = front ++ initialText (initial node) ++ ";") :
    Initializes lower initial line constant spelled expression := by
  have hexpression : ∀ node, lower constant = .ok node → initial node = some expression :=
    fun node hnode => eq_of_expresses h (hinitial node hnode)
  refine ⟨hlower, hexpression, fun node hnode => ?_⟩
  obtain ⟨front, hfront⟩ := hline node
  refine ⟨front, ?_⟩
  rw [hfront, hexpression node hnode, initialText, ← String.append_assoc]

theorem property_initializes {record : Record.Property}
    (h : value.render converters = .ok expression) (hdefault : record.defaultValue = none)
    (path : RecordPath) :
    Initializes (property converters path) Property.defaultValue Property.declaration
      { record with value := some value }
      { record with defaultValue := some expression, value := none } expression := by
  refine .of_render h ?_ (fun node hnode => ?_) fun node => ⟨_, rfl⟩
  · unfold property
    rw [hdefault, initialValue_of_render h]
  · have hinitial := (property_eq_ok_iff.mp hnode).initial
    rwa [hdefault] at hinitial

theorem variableDecl_initializes {record : Record.VariableDecl}
    (h : value.render converters = .ok expression) (hdefault : record.defaultValue = none)
    (path : RecordPath) :
    Initializes (variableDecl converters path) VariableDecl.value VariableDecl.declaration
      { record with value := some value }
      { record with defaultValue := some expression, value := none } expression := by
  refine .of_render h ?_ (fun node hnode => ?_) fun node => ⟨_, rfl⟩
  · unfold variableDecl
    rw [hdefault, initialValue_of_render h]
  · have hinitial := (variableDecl_eq_ok_iff.mp hnode).initial
    rwa [hdefault] at hinitial

end Lowering

/-! ### The main statement -/

namespace Record

open Lowering (Initializes)

/-- **A constant of a description reaches the line of its node**, a bare null apart. The table of a
field or variable is given the tree of a constant as its `value`. The table is read as the record
with this constant; only if the constant is null itself, it is read as the record without one. Where
all custom types in the constant are known, there is an expression for it, and a record that has the
constant and no expression of its own is lowered as if it had been given this expression: nothing
about the constant can make it fail, and a node that comes out is declared with it. -/
theorem constant_reaches_output (front rest : Fields) {value : Value} {converters : Converters}
    (hfresh : "value" ∉ (front ++ rest).map Prod.fst)
    (hparts : ∀ part ∈ value.parts, part.Storable)
    (htags : ∀ tag ∈ value.tags, tag ∈ converters.tags) :
    ∃ expression, value.render converters = .ok expression ∧
      (∀ record, readMember (.table (front ++ rest)) = some (.property record) →
        (value ≠ .null → readMember (.table (front ++ ("value", value.tree) :: rest)) =
          some (.property { record with value := some value })) ∧
        (value = .null → readMember (.table (front ++ ("value", value.tree) :: rest)) =
          some (.property { record with value := none })) ∧
        (record.defaultValue = none → ∀ path,
          Initializes (Lowering.property converters path) DartSource.Property.defaultValue
            DartSource.Property.declaration { record with value := some value }
            { record with defaultValue := some expression, value := none } expression)) ∧
      (∀ record, readDeclaration (.table (front ++ rest)) = some (.variable record) →
        (value ≠ .null → readDeclaration (.table (front ++ ("value", value.tree) :: rest)) =
          some (.variable { record with value := some value })) ∧
        (value = .null → readDeclaration (.table (front ++ ("value", value.tree) :: rest)) =
          some (.variable { record with value := none })) ∧
        (record.defaultValue = none → ∀ path,
          Initializes (Lowering.variableDecl converters path) DartSource.VariableDecl.value
            DartSource.VariableDecl.declaration { record with value := some value }
            { record with defaultValue := some expression, value := none } expression)) := by
  obtain ⟨expression, hrender⟩ := value.answers_render.exists_eq_ok_iff.mpr htags
  refine ⟨expression, hrender, fun record hread => ?_, fun record hread => ?_⟩
  · have hinsert := readMember_insert hfresh hparts hread
    refine ⟨fun hne => ?_, fun hnull => ?_, fun hdefault path => ?_⟩
    · rw [hinsert, Value.kept?_of_ne_null hne]
    · rw [hinsert, hnull, Value.kept?]
    · exact Lowering.property_initializes hrender hdefault path
  · have hinsert := readDeclaration_insert hfresh hparts hread
    refine ⟨fun hne => ?_, fun hnull => ?_, fun hdefault path => ?_⟩
    · rw [hinsert, Value.kept?_of_ne_null hne]
    · rw [hinsert, hnull, Value.kept?]
    · exact Lowering.variableDecl_initializes hrender hdefault path

/-- Converters for points alone. -/
def pointConverters : Converters :=
  ⟨[("Point", fun fields => "Point(" ++ Converter.namedArgs fields ++ ")")]⟩

/-- A point whose fields hold a negative number, and a map with a null and an enum value. -/
def nestedPoint : Value :=
  .custom "Point"
    [("x", .int (-1)),
     ("tags", .map [(.text "a", .null), (.enumValue "Level" "info", .list [.int 2])])]

/-- The expression for this point. -/
def nestedPointText : String :=
  "Point(x: -1, tags: \x7b'a': null, Level.info: [2]\x7d)"

theorem constant_reaches_output_nestedPoint :
    readMember
        (.table [("kind", .text "property"), ("value", nestedPoint.tree), ("name", .text "p")]) =
      some (.property { name := "p", value := some nestedPoint }) ∧
    readDeclaration
        (.table [("kind", .text "variable"), ("value", nestedPoint.tree), ("name", .text "p")]) =
      some (.variable { name := "p", value := some nestedPoint }) ∧
    ∃ node, Lowering.variableDecl pointConverters {} { name := "p", value := some nestedPoint } =
        .ok node ∧
      node.value = some nestedPointText ∧
      node.declaration = "var p = " ++ nestedPointText ++ ";" := by
  have hparts : ∀ part ∈ nestedPoint.parts, part.Storable := by decide +kernel
  have htags : ∀ tag ∈ nestedPoint.tags, tag ∈ pointConverters.tags := by decide +kernel
  have hne : nestedPoint ≠ .null := by rintro ⟨⟩
  obtain ⟨_, -, hmember, -⟩ := constant_reaches_output [("kind", .text "property")]
    [("name", .text "p")] (by decide) hparts htags
  obtain ⟨expression, hrender, -, hdeclaration⟩ :=
    constant_reaches_output [("kind", .text "variable")] [("name", .text "p")] (by decide) hparts
      htags
  have htext : nestedPoint.render pointConverters = .ok nestedPointText := by cbv
  obtain rfl : expression = nestedPointText := Except.ok.inj (hrender.symm.trans htext)
  obtain ⟨hread, -, hlower⟩ := hdeclaration { name := "p" } rfl
  have hinitializes := hlower rfl {}
  have hspelled : Lowering.variableDecl pointConverters {}
      { name := "p", defaultValue := some nestedPointText, value := none } =
        .ok { name := "p", value := some nestedPointText } := by cbv
  have hnode := hinitializes.lower_eq.trans hspelled
  exact ⟨(hmember { name := "p" } rfl).1 hne, hread hne, _, hnode,
    hinitializes.initial_eq _ hnode, by decide⟩

/-- **A null that is the whole constant gets lost.** It is read as no constant at all, and the
variable is declared without the initial value that it would be rendered as. -/
theorem null_constant_dropped :
    (¬∀ value : Value, (∀ part ∈ value.parts, part.Storable) →
      ∃ record, readDeclaration
          (.table [("kind", .text "variable"), ("name", .text "x"), ("value", value.tree)]) =
            some (.variable record) ∧ record.value = some value) ∧
    Value.null.render {} = .ok "null" ∧
    ∃ record node, readDeclaration
        (.table [("kind", .text "variable"), ("name", .text "x"), ("value", Value.null.tree)]) =
          some (.variable record) ∧
      Lowering.variableDecl {} {} record = .ok node ∧ node.declaration = "var x;" := by
  have hread : readDeclaration
      (.table [("kind", .text "variable"), ("name", .text "x"), ("value", Value.null.tree)]) =
        some (.variable { name := "x" }) := rfl
  refine ⟨fun hall => ?_, rfl, { name := "x" }, { name := "x" }, hread, rfl, by decide⟩
  obtain ⟨record, hrecord, hvalue⟩ := hall .null (by decide +kernel)
  rw [hread] at hrecord
  obtain rfl := Declaration.variable.inj (Option.some.inj hrecord)
  exact absurd hvalue (by rintro ⟨⟩)

end Record

end DartSource
