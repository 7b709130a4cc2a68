import DartSource.Proofs.Lowering.Composition
import DartSource.Proofs.Lowering.PathText

/-!
# Failures address the records that cause them

Lowering a library ends at its first failure, and the failure has a path. This module says what the
path is good for. It is a walk through the description, and every step of it leads to a record that
is there. The record is lowered with this very failure, and whatever is lowered before it passes:
the records in front of it in its list, and the fields and lists in front of that list, such as the
constants of an enum before its members (`Record.Entry.Blames`). So a reader who follows the path
gets to the record at fault, and knows that everything up to it is in order.

Lowering is a chain of steps, and the walk is found along the chain. `Lowering.Addressed` says of a
result that its failure, if it is one, is addressed by a walk from the record that was lowered. A
check and the building of a node fail where they stand, a chain fails where one of its steps does
(`Addressed.bind`), and the lowering of an inner record puts a step in front of the walk
(`Addressed.inside`). In a list the failing record has others in front of it, and these pass
(`Addressed.each`).
-/

namespace DartSource

open Record (Entry)

namespace Record.Entry

/-- The name that the members of a declaration take for that of their owner. -/
def owner : Entry → String
  | .declaration (.classDecl record) => record.name
  | .declaration (.enumDecl record) => record.name
  | .declaration (.mixinDecl record) => record.name
  | .declaration (.extensionDecl record) => record.name.getD record.target
  | _ => ""

/-- The records in the fields of a record and in its lists up to the one of that name. -/
def above (entry : Entry) (name : String) : List Entry :=
  entry.fields.map Prod.snd ++ (entry.lists.takeWhile (·.1 != name)).flatMap Prod.snd

/-- The records that are lowered before the one that a step leads to. Fields come before lists, and
the lists and the records in them come in their order. -/
def before (entry : Entry) : RecordPath.Step → List Entry
  | .field _ => []
  | .item name index => entry.above name ++ ((entry.lists.lookup name).getD []).take index

/-- A result without its node. -/
def verdict {α : Type} (result : Except Failure α) : Except Failure Unit :=
  result.map fun _ => ()

theorem verdict_eq_error_iff {α : Type} {result : Except Failure α} {failure : Failure} :
    verdict result = .error failure ↔ result = .error failure := by
  cases result <;> simp [verdict, Except.map]

variable (surroundings : Surroundings) (current : Option Asset)

/-- What lowering a record at a path says, inside a record that gives the owner's name, in the
description of the file `current`. -/
def lowerAt (owner : String) (path : RecordPath) : Entry → Except Failure Unit
  | .library record => verdict (record.lower surroundings)
  | .output record => verdict (Lowering.options (surroundings.resolution current) path record)
  | .partOf record => verdict (Lowering.partOf (surroundings.resolution current) path record)
  | .directive record => verdict (Lowering.directive (surroundings.resolution current) path record)
  | .declaration record => verdict (Lowering.declaration surroundings.converters path record)
  | .constant record => verdict (Lowering.enumConstant path record)
  | .member record => verdict (Lowering.member surroundings.converters owner path record)
  | .param record => verdict (Lowering.param path record)
  | .value record => verdict (Lowering.atPath path (record.render surroundings.converters))

/-- The record is lowered without a failure, wherever it stands. -/
def Passes (owner : String) (entry : Entry) : Prop :=
  ∀ path, entry.lowerAt surroundings current owner path = .ok ()

/-- **One step of the walk to a failure.** It leads from a record at the path to one inside, which
is lowered with that failure, and what is lowered before that record passes. -/
structure Blames (failure : Failure) (outer : Entry) (path : RecordPath) (step : RecordPath.Step)
    (inner : Entry) : Prop where
  leads : outer.step? step = some inner
  fails : inner.lowerAt surroundings current outer.owner ⟨path.steps ++ [step]⟩ = .error failure
  passes : ∀ earlier ∈ outer.before step, earlier.Passes surroundings current outer.owner

/-- The steps are a walk from a record at the path to the one that is to blame for the failure. -/
inductive Walk (failure : Failure) : Entry → RecordPath → List RecordPath.Step → Prop where
  | here (entry : Entry) (path : RecordPath) : Walk failure entry path []
  | inside {outer inner : Entry} {path : RecordPath} {step : RecordPath.Step}
      {rest : List RecordPath.Step}
      (hstep : outer.Blames surroundings current failure path step inner)
      (hrest : Walk failure inner ⟨path.steps ++ [step]⟩ rest) :
      Walk failure outer path (step :: rest)

variable {surroundings current}

/-- Along a walk every step is to blame. -/
theorem Walk.blames {failure : Failure} {entry : Entry} {path : RecordPath}
    {front rest : List RecordPath.Step} {step : RecordPath.Step}
    (h : Walk surroundings current failure entry path (front ++ step :: rest)) :
    ∃ outer inner, entry.follow? front = some outer ∧
      outer.Blames surroundings current failure ⟨path.steps ++ front⟩ step inner := by
  induction front generalizing entry path with
  | nil =>
    cases h with
    | inside hstep _ =>
      rw [List.append_nil]
      exact ⟨entry, _, rfl, hstep⟩
  | cons first front ih =>
    cases h with
    | inside hfirst hrest =>
      obtain ⟨outer, inner, hfollow, hblames⟩ := ih hrest
      rw [List.append_assoc, List.singleton_append] at hblames
      exact ⟨outer, inner, (follow?_step hfirst.leads front).trans hfollow, hblames⟩

/-- A walk ends at a record of the description. -/
theorem Walk.exists_follow? {failure : Failure} {entry : Entry} {path : RecordPath}
    {steps : List RecordPath.Step} (h : Walk surroundings current failure entry path steps) :
    ∃ record, entry.follow? steps = some record := by
  induction h with
  | here entry path => exact ⟨entry, rfl⟩
  | inside hstep _ ih =>
    obtain ⟨record, hrecord⟩ := ih
    exact ⟨record, (follow?_step hstep.leads _).trans hrecord⟩

end Record.Entry

namespace Lowering

open Record.Entry (verdict verdict_eq_error_iff)

variable {α β : Type} {surroundings : Surroundings} {current : Option Asset} {entry : Entry}
  {path : RecordPath}

/-- **A failure is addressed** by a walk from the record at the path. -/
def Addressed (surroundings : Surroundings) (current : Option Asset) (entry : Entry)
    (path : RecordPath) (result : Except Failure α) : Prop :=
  ∀ failure, result = .error failure →
    ∃ steps, failure.path? = some ⟨path.steps ++ steps⟩ ∧
      entry.Walk surroundings current failure path steps

/-! ### Parts of steps -/

namespace Addressed

theorem ok (value : α) : Addressed surroundings current entry path (.ok value) :=
  fun _ h => absurd h (by rintro ⟨⟩)

/-- A failure at the path itself. -/
theorem here {result : Except Failure α}
    (h : ∀ failure, result = .error failure → failure.path? = some path) :
    Addressed surroundings current entry path result := by
  intro failure hfails
  refine ⟨[], ?_, .here entry path⟩
  rw [List.append_nil]
  exact h failure hfails

theorem misuse (cause : Misuse) :
    Addressed surroundings current entry path (.error (.record path cause) : Except Failure α) :=
  here fun _ h => Except.error.inj h ▸ rfl

theorem atPath (built : Except Fault α) :
    Addressed surroundings current entry path (atPath path built) := by
  cases built with
  | ok value => exact .ok value
  | error fault => exact here fun _ h => Except.error.inj h ▸ rfl

theorem check (acceptance : Acceptance) (modifiers : List Record.Modifier) :
    Addressed surroundings current entry path (acceptance.check path modifiers) := by
  unfold Acceptance.check
  cases acceptance.misuseAfter? [] modifiers with
  | some cause => exact .misuse cause
  | none => exact .ok ()

theorem limit? (modifiers : List Record.Modifier) :
    Addressed surroundings current entry path (limit? path modifiers) := by
  unfold Lowering.limit?
  split
  · exact .ok none
  · exact .ok _
  · exact .misuse .severalLimits

/-- A chain fails where one of its steps does. The steps before it have values. -/
theorem bind {step : Except Failure α} {next : α → Except Failure β}
    (hstep : Addressed surroundings current entry path step)
    (hnext : ∀ value, step = .ok value →
      Addressed surroundings current entry path (next value)) :
    Addressed surroundings current entry path (step >>= next) := by
  intro failure hfails
  rcases bind_eq_error_iff.mp hfails with hfirst | ⟨value, hvalue, hsecond⟩
  · exact hstep failure hfirst
  · exact hnext value hvalue failure hsecond

theorem map {step : Except Failure α} (hstep : Addressed surroundings current entry path step)
    (f : α → β) :
    Addressed surroundings current entry path (step >>= fun value => .ok (f value)) :=
  hstep.bind fun value _ => .ok (f value)

/-- **An inner record puts a step in front of the walk.** -/
theorem inside {step : RecordPath.Step} {inner : Entry} {result : Except Failure α}
    (hstep : entry.step? step = some inner)
    (hresult : inner.lowerAt surroundings current entry.owner ⟨path.steps ++ [step]⟩ =
      verdict result)
    (hbefore : ∀ earlier ∈ entry.before step, earlier.Passes surroundings current entry.owner)
    (h : Addressed surroundings current inner ⟨path.steps ++ [step]⟩ result) :
    Addressed surroundings current entry path result := by
  intro failure hfails
  obtain ⟨steps, hpath, hwalk⟩ := h failure hfails
  rw [List.append_assoc, List.singleton_append] at hpath
  refine ⟨step :: steps, hpath, .inside ⟨hstep, ?_, hbefore⟩ hwalk⟩
  rw [hresult, verdict_eq_error_iff]
  exact hfails

/-- A record in a field has nothing in front of it. -/
theorem field {name : String} {inner : Entry} {result : Except Failure α}
    (hfield : entry.step? (.field name) = some inner)
    (hresult : inner.lowerAt surroundings current entry.owner (path.field name) = verdict result)
    (h : Addressed surroundings current inner (path.field name) result) :
    Addressed surroundings current entry path result :=
  inside hfield hresult (List.forall_mem_nil _) h

section Lists

variable {name : String} {records : List α} {wrap : α → Entry}
  {lower : RecordPath → α → Except Failure β}

/-- A record that passes once passes everywhere. -/
theorem passes_of_ok {owner : String}
    (hlower : ∀ record path, (wrap record).lowerAt surroundings current owner path =
      verdict (lower path record))
    (hmovable : ∀ record, Movable fun path => lower path record) {record : α} {node : β}
    {place : RecordPath} (h : lower place record = .ok node) :
    (wrap record).Passes surroundings current owner := by
  intro path
  have hroot : lower {} record = .ok node := ((hmovable record).eq_ok_iff place).mp h
  have hhere : lower path record = .ok node := ((hmovable record).eq_ok_iff path).mpr hroot
  rw [hlower, hhere]
  rfl

/-- The records of a list that gives nodes pass. -/
theorem passes_of_each {owner : String}
    (hlower : ∀ record path, (wrap record).lowerAt surroundings current owner path =
      verdict (lower path record))
    (hmovable : ∀ record, Movable fun path => lower path record) {nodes : List β}
    (h : Lowering.each path name lower records = .ok nodes) :
    ∀ record ∈ records.map wrap, record.Passes surroundings current owner := by
  have hnodes := (each_eq_ok_iff fun place record _ => (hmovable record).eq_ok_iff place).mp h
  clear h
  induction hnodes with
  | nil => exact List.forall_mem_nil _
  | cons hfirst _ ih => exact List.forall_mem_cons.mpr ⟨passes_of_ok hlower hmovable hfirst, ih⟩

/-- **In a list the first failing record is to blame.** The records in front of it pass; those above
the list have passed before. -/
theorem each (entry : Entry) (hlist : entry.lists.lookup name = some (records.map wrap))
    (hlower : ∀ record path, (wrap record).lowerAt surroundings current entry.owner path =
      verdict (lower path record))
    (hmovable : ∀ record, Movable fun path => lower path record)
    (habove : ∀ earlier ∈ entry.above name, earlier.Passes surroundings current entry.owner)
    (h : ∀ record path, Addressed surroundings current (wrap record) path (lower path record)) :
    Addressed surroundings current entry path (each path name lower records) := by
  intro failure hfails
  obtain ⟨front, record, rest, hsplit, hfront, hrecord⟩ :=
    (each_eq_error_iff hmovable).mp hfails
  have hstep : entry.step? (.item name front.length) = some (wrap record) := by
    rw [Entry.step?_item hlist, hsplit]
    simp
  refine inside hstep (hlower record _) (fun earlier hmem => ?_) (h record _) failure hrecord
  rw [Entry.before, hlist, hsplit, Option.getD_some, List.map_append,
    List.take_left' (List.length_map wrap)] at hmem
  rcases List.mem_append.mp hmem with hmem | hmem
  · exact habove earlier hmem
  · obtain ⟨first, hfirst, rfl⟩ := List.mem_map.mp hmem
    obtain ⟨node, hnode⟩ := hfront first hfirst
    exact passes_of_ok hlower hmovable hnode

end Lists

end Addressed

/-! ### Signatures and values -/

theorem addressed_param (record : Record.Param) (path : RecordPath) :
    Addressed surroundings current (.param record) path (param path record) :=
  (Addressed.check _ _).bind fun _ _ => .atPath _

/-- Parameters stand in the only list of a record. -/
theorem addressed_params {records : List Record.Param}
    (hlist : entry.lists.lookup "params" = some (records.map .param))
    (habove : entry.above "params" = []) :
    Addressed surroundings current entry path (params path records) := by
  refine .each entry hlist (fun _ _ => rfl) movable_param ?_ addressed_param
  rw [habove]
  exact List.forall_mem_nil _

theorem addressed_callable {record : Record.Callable}
    (hlist : entry.lists.lookup "params" = some (record.params.map .param))
    (habove : entry.above "params" = []) :
    Addressed surroundings current entry path (callable path record) :=
  (addressed_params hlist habove).map _

/-- A constant that cannot be rendered is to blame itself; two initial values are the fault of the
record that has them. -/
theorem addressed_initialValue (defaultValue : Option String) {value : Option Record.Value}
    (hvalue : ∀ constant, value = some constant →
      entry.step? (.field "value") = some (.value constant)) :
    Addressed surroundings current entry path
      (initialValue surroundings.converters path defaultValue value) := by
  cases defaultValue with
  | some expression =>
    cases value with
    | some constant => exact .misuse .twoValues
    | none => exact .ok (some expression)
  | none =>
    cases value with
    | some constant => exact (Addressed.field (hvalue constant rfl) rfl (.atPath _)).map some
    | none => exact .ok none

/-! ### Members -/

theorem addressed_property (record : Record.Property) (path : RecordPath) :
    Addressed surroundings current (.member (.property record)) path
      (property surroundings.converters path record) := by
  refine (Addressed.check _ _).bind fun _ _ => ?_
  refine (addressed_initialValue _ fun constant hconstant => ?_).bind fun _ _ => .atPath _
  rw [Entry.step?, Entry.fields, hconstant]
  rfl

theorem addressed_setter (record : Record.Setter) (path : RecordPath) :
    Addressed surroundings current (.member (.setter record)) path (setter path record) := by
  refine (Addressed.check _ _).bind fun _ _ => ?_
  exact (Addressed.field rfl rfl (addressed_param record.param _)).bind fun _ _ => .atPath _

theorem addressed_constructor (owner : String) (record : Record.Constructor) (path : RecordPath) :
    Addressed surroundings current (.member (.constructor record)) path
      (constructor owner path record) := by
  refine (Addressed.check _ _).bind fun _ _ => ?_
  exact (addressed_params rfl rfl).bind fun _ _ => .atPath _

theorem addressed_method (record : Record.Callable) (path : RecordPath) :
    Addressed surroundings current (.member (.method record)) path (method path record) := by
  refine (Addressed.check _ _).bind fun _ _ => ?_
  exact (addressed_callable rfl rfl).bind fun _ _ => .atPath _

/-- **Failures of members are addressed.** -/
theorem addressed_member (owner : String) (record : Record.Member) (path : RecordPath) :
    Addressed surroundings current (.member record) path
      (member surroundings.converters owner path record) := by
  cases record with
  | property record => exact (addressed_property record path).map Member.property
  | getter record => exact ((Addressed.check _ _).bind fun _ _ => .atPath _).map Member.getter
  | setter record => exact (addressed_setter record path).map Member.setter
  | constructor record => exact (addressed_constructor owner record path).map Member.constructor
  | method record => exact (addressed_method record path).map Member.method

/-- Members stand in the last list of a declaration. -/
theorem addressed_members (entry : Entry) {records : List Record.Member}
    (hlist : entry.lists.lookup "members" = some (records.map .member))
    (habove : ∀ earlier ∈ entry.above "members",
      earlier.Passes surroundings current entry.owner) :
    Addressed surroundings current entry path
      (members surroundings.converters entry.owner path records) :=
  .each entry hlist (fun _ _ => rfl) (movable_member _ _) habove (addressed_member _)

/-! ### Declarations and directives -/

theorem addressed_classDecl (record : Record.ClassDecl) (path : RecordPath) :
    Addressed surroundings current (.declaration (.classDecl record)) path
      (classDecl surroundings.converters path record) := by
  refine (Addressed.check _ _).bind fun _ _ => (Addressed.limit? _).bind fun _ _ => ?_
  exact (addressed_members (.declaration (.classDecl record)) rfl
    (List.forall_mem_nil _)).bind fun _ _ => .atPath _

/-- The members of an enum are looked at when all its constants have passed. -/
theorem addressed_enumDecl (record : Record.EnumDecl) (path : RecordPath) :
    Addressed surroundings current (.declaration (.enumDecl record)) path
      (enumDecl surroundings.converters path record) := by
  have hconstants : ∀ constant place, (Entry.constant constant).lowerAt surroundings current
      record.name place = verdict (enumConstant place constant) := fun _ _ => rfl
  refine (Addressed.each _ rfl hconstants movable_enumConstant (List.forall_mem_nil _)
    fun _ _ => .atPath _).bind fun constants hpassed => ?_
  refine (addressed_members (.declaration (.enumDecl record)) rfl ?_).bind
    fun _ _ => .atPath _
  have habove : (Entry.declaration (.enumDecl record)).above "members" =
      record.constants.map .constant := List.append_nil _
  rw [habove]
  exact Addressed.passes_of_each hconstants movable_enumConstant hpassed

theorem addressed_mixinDecl (record : Record.MixinDecl) (path : RecordPath) :
    Addressed surroundings current (.declaration (.mixinDecl record)) path
      (mixinDecl surroundings.converters path record) := by
  refine (Addressed.check _ _).bind fun _ _ => (Addressed.limit? _).bind fun _ _ => ?_
  exact (addressed_members (.declaration (.mixinDecl record)) rfl
    (List.forall_mem_nil _)).bind fun _ _ => .atPath _

theorem addressed_extensionDecl (record : Record.ExtensionDecl) (path : RecordPath) :
    Addressed surroundings current (.declaration (.extensionDecl record)) path
      (extensionDecl surroundings.converters path record) :=
  (addressed_members (.declaration (.extensionDecl record)) rfl
    (List.forall_mem_nil _)).bind fun _ _ => .atPath _

theorem addressed_functionDecl (record : Record.Callable) (path : RecordPath) :
    Addressed surroundings current (.declaration (.functionDecl record)) path
      (functionDecl path record) := by
  refine (Addressed.check _ _).bind fun _ _ => ?_
  exact (addressed_callable rfl rfl).bind fun _ _ => .atPath _

theorem addressed_variableDecl (record : Record.VariableDecl) (path : RecordPath) :
    Addressed surroundings current (.declaration (.variable record)) path
      (variableDecl surroundings.converters path record) := by
  refine (Addressed.check _ _).bind fun _ _ => ?_
  refine (addressed_initialValue _ fun constant hconstant => ?_).bind fun _ _ => .atPath _
  rw [Entry.step?, Entry.fields, hconstant]
  rfl

/-- **Failures of declarations are addressed.** -/
theorem addressed_declaration (record : Record.Declaration) (path : RecordPath) :
    Addressed surroundings current (.declaration record) path
      (declaration surroundings.converters path record) := by
  cases record with
  | classDecl record => exact (addressed_classDecl record path).map Declaration.classDecl
  | enumDecl record => exact (addressed_enumDecl record path).map Declaration.enumDecl
  | mixinDecl record => exact (addressed_mixinDecl record path).map Declaration.mixinDecl
  | extensionDecl record =>
    exact (addressed_extensionDecl record path).map Declaration.extensionDecl
  | functionDecl record => exact (addressed_functionDecl record path).map Declaration.functionDecl
  | «variable» record => exact (addressed_variableDecl record path).map Declaration.variable

theorem addressed_directive (record : Record.Directive) (path : RecordPath) :
    Addressed surroundings current (.directive record) path
      (directive (surroundings.resolution current) path record) := by
  have hcheck : Addressed surroundings current (.directive record) path
      (checkDirective path record) := by
    cases record with
    | importLib record => exact .check _ _
    | exportLib target shown hidden => exact .ok ()
    | part target => exact .ok ()
  exact hcheck.bind fun _ _ => .atPath _

/-! ### Output -/

theorem movable_partOf (resolution : Resolution) (record : Record.PartOf) :
    Movable fun path => partOf resolution path record := by
  cases record with
  | library name =>
    intro outer path
    simp only [partOf]
    split <;> rfl
  | uri text => exact .ok _
  | asset record => exact .atPath _

theorem movable_options (resolution : Resolution) (record : Record.Output) :
    Movable fun path => options resolution path record := by
  have howner : Movable fun path => partOf? resolution path record.partOf := by
    cases record.partOf with
    | none => exact .ok none
    | some owner => exact (movable_partOf resolution owner).map some
  exact (howner.field "part_of").map _

/-- The output fails at its owner only. -/
theorem addressed_output (record : Record.Output) (path : RecordPath) :
    Addressed surroundings current (.output record) path
      (options (surroundings.resolution current) path record) := by
  refine Addressed.map (?_ : Addressed _ _ _ _ (partOf? _ _ record.partOf)) _
  cases howner : record.partOf with
  | none => exact .ok none
  | some owner =>
    have hfield : (Entry.output record).step? (.field "part_of") = some (.partOf owner) := by
      rw [Entry.step?, Entry.fields, howner]
      rfl
    refine (Addressed.field hfield rfl ?_).map some
    exact .here fun _ hfails => path?_of_partOf_error hfails

end Lowering

/-! ### Libraries -/

namespace Record.Library

variable {library : Library} {surroundings : Surroundings}

/-- **Failures of libraries are addressed.** The output is lowered before the directives, and these
before the declarations. -/
theorem addressed_lower (library : Library) (surroundings : Surroundings) :
    Lowering.Addressed surroundings (library.output.asset.map Lowering.asset) (.library library) {}
      (library.lower surroundings) := by
  rw [lower_eq]
  refine (Lowering.Addressed.field rfl rfl (Lowering.addressed_output library.output _)).bind
    fun options hoptions => ?_
  have houtput : (Entry.output library.output).Passes surroundings
      (library.output.asset.map Lowering.asset) "" :=
    Lowering.Addressed.passes_of_ok (fun _ _ => rfl) (Lowering.movable_options _) hoptions
  refine Lowering.Addressed.bind ?_ fun directives hdirectives => Lowering.Addressed.map ?_ _
  · exact .each (.library library) rfl (fun _ _ => rfl) (Lowering.movable_directive _)
      (List.forall_mem_singleton.mpr houtput) Lowering.addressed_directive
  · refine .each (.library library) rfl (fun _ _ => rfl) (Lowering.movable_declaration _)
      ?_ Lowering.addressed_declaration
    have habove : (Entry.library library).above "declarations" =
        .output library.output :: library.directives.map .directive :=
      congrArg (_ :: ·) (List.append_nil _)
    rw [habove]
    refine List.forall_mem_cons.mpr ⟨houtput, ?_⟩
    exact Lowering.Addressed.passes_of_each (fun _ _ => rfl) (Lowering.movable_directive _)
      hdirectives

/-- No failure is put on the library as a whole. -/
theorem path?_ne_root {failure : Failure} (h : library.lower surroundings = .error failure) :
    failure.path? ≠ some {} := by
  cases hlayout : library.layout surroundings with
  | error cause =>
    rw [lower_of_layout_error hlayout] at h
    obtain rfl := Except.error.inj h
    rw [path?_of_layout_error hlayout]
    exact fun hroot => absurd hroot (by decide)
  | ok options =>
    intro hroot
    obtain ⟨name, index, rest, hsteps⟩ := exists_item_of_lower_error hlayout h hroot
    exact absurd hsteps (by simp)

/-- **What the path of a failure says.** -/
structure Addresses (library : Library) (surroundings : Surroundings) (failure : Failure)
    (path : RecordPath) : Prop where
  /-- The path leads to a record of the description, … -/
  record : ∃ record, library.recordAt? path = some record
  /-- … which is not the description itself. -/
  steps_ne_nil : path.steps ≠ []
  /-- Each step on the way leads to a record that fails so, and what is lowered before that record
  passes. -/
  blames : ∀ front step rest, path.steps = front ++ step :: rest →
    ∃ outer inner, library.recordAt? ⟨front⟩ = some outer ∧
      outer.Blames surroundings (library.output.asset.map Lowering.asset) failure ⟨front⟩ step inner

/-- **A failure addresses the record that causes it.** Every failure of a library has a path, which
leads through records that fail so to one of them, past records that pass. And within a library
different records have different paths, also in the text of a message. -/
theorem failure_addressed (library : Library) (surroundings : Surroundings) :
    (∀ failure, library.lower surroundings = .error failure →
      ∃ path, failure.path? = some path ∧ library.Addresses surroundings failure path) ∧
    ∀ path other record record', library.recordAt? path = some record →
      library.recordAt? other = some record' → path.text = other.text → path = other := by
  refine ⟨fun failure hfails => ?_, fun path other record record' => eq_of_path_text_eq⟩
  obtain ⟨steps, hpath, hwalk⟩ := addressed_lower library surroundings failure hfails
  refine ⟨⟨steps⟩, hpath, hwalk.exists_follow?, ?_, ?_⟩
  · rintro rfl
    exact path?_ne_root hfails hpath
  · rintro front step rest rfl
    exact hwalk.blames

/-- An enum whose second method has a second parameter without a proper name, behind a variable and
a directive. -/
def deepFault : Library where
  directives := [.part (.uri "a.dart")]
  declarations :=
    [.variable { name := "v" },
     .enumDecl
      { name := "E"
        constants := [{ name := "a" }, { name := "b" }]
        members :=
          [.property { name := "p", modifiers := [.final] },
           .method { name := "m", params := [{ name := "x" }, { name := "1y" }] }] }]

/-- The address of the parameter, and what is in order when it is blamed: both constants and the
property of the enum, among others. -/
theorem failure_addressed_deepFault :
    let path : RecordPath := ⟨[.item "declarations" 1, .item "members" 1, .item "params" 1]⟩
    let failure : Failure := .build path (.structural .parameter "1y" (.invalidIdentifier "1y"))
    deepFault.lower {} = .error failure ∧ path.text = "declarations[1].members[1].params[1]" ∧
      deepFault.Addresses {} failure path := by
  intro path failure
  have hfails : deepFault.lower {} = .error failure := by decide +kernel
  obtain ⟨other, hpath, haddresses⟩ := (failure_addressed deepFault {}).1 failure hfails
  obtain rfl := Option.some.inj hpath
  exact ⟨hfails, by decide +kernel, haddresses⟩

end Record.Library

end DartSource
