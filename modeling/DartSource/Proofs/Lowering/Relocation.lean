import DartSource.Lowering.Library

/-!
# The place of a record

Lowering hands every record its path, and the path serves one purpose: to address a failure. This
module says so for every kind of record. Moving a record **below** another place leaves its result
as it was, and puts the new place in front of the path of its failure (`Lowering.Movable`).

A lowering step is put together from few parts: checks that fail where they stand, building at a
path, chains of steps, and the lowering of inner records one step further down. Each part is
movable, or passes movability on, so that the proof for a kind of record only has to follow the
chain of its steps. The records of a library come out as `Lowering.movable_directive` and
`Lowering.movable_declaration`. For a record in a list this means that its index shows in the
failure and nowhere else (`Lowering.Movable.at_index`).
-/

namespace DartSource

namespace RecordPath

/-- The path, continued from the place that `outer` leads to. -/
def below (outer path : RecordPath) : RecordPath :=
  ⟨outer.steps ++ path.steps⟩

theorem field_below (outer path : RecordPath) (name : String) :
    (below outer path).field name = below outer (path.field name) := by
  unfold field below
  rw [List.append_assoc]

theorem item_below (outer path : RecordPath) (name : String) (index : Nat) :
    (below outer path).item name index = below outer (path.item name index) := by
  unfold item below
  rw [List.append_assoc]

theorem below_root (outer : RecordPath) : below outer {} = outer := by
  unfold below
  rw [List.append_nil]

/-- The path with another index in its first step, where that is the index zero. -/
def renumber (index : Nat) (path : RecordPath) : RecordPath :=
  match path.steps with
  | .item name 0 :: rest => ⟨.item name index :: rest⟩
  | steps => ⟨steps⟩

end RecordPath

namespace Failure

/-- The failure with its path changed, if it has one. -/
def mapPath (change : RecordPath → RecordPath) : Failure → Failure
  | .unreadable file => .unreadable file
  | .malformed format => .malformed format
  | .record path cause => .record (change path) cause
  | .build path cause => .build (change path) cause

/-- The path of a failure, if it has one. -/
def path? : Failure → Option RecordPath
  | .unreadable _ => none
  | .malformed _ => none
  | .record path _ => some path
  | .build path _ => some path

/-- The failure of a record that stands below another place. -/
def below (outer : RecordPath) : Failure → Failure :=
  mapPath (RecordPath.below outer)

/-- The failure of a record that stands at another index than zero. -/
def renumber (index : Nat) : Failure → Failure :=
  mapPath (RecordPath.renumber index)

theorem path?_below (outer : RecordPath) (failure : Failure) :
    (below outer failure).path? = failure.path?.map (RecordPath.below outer) := by
  cases failure <;> rfl

/-- A failure below the first of a list of records, renumbered, is one below another of them. -/
theorem renumber_below_item (name : String) (index : Nat) (failure : Failure) :
    renumber index (below (RecordPath.item {} name 0) failure) =
      below (RecordPath.item {} name index) failure := by
  cases failure <;> rfl

end Failure

namespace Lowering

variable {α β : Type}

/-- A step of lowering reads its path only to address its failure. -/
def Movable (lower : RecordPath → Except Failure α) : Prop :=
  ∀ outer path,
    lower (RecordPath.below outer path) = (lower path).mapError (Failure.below outer)

/-! ### Parts of steps -/

namespace Movable

theorem ok (value : α) : Movable fun _ => .ok value :=
  fun _ _ => rfl

theorem misuse (cause : Misuse) :
    Movable fun path => (.error (.record path cause) : Except Failure α) :=
  fun _ _ => rfl

theorem atPath (built : Except Fault α) : Movable fun path => atPath path built := by
  intro outer path
  cases built <;> rfl

/-- A chain of movable steps is movable. -/
theorem bind {step : RecordPath → Except Failure α} {next : α → RecordPath → Except Failure β}
    (hstep : Movable step) (hnext : ∀ value, Movable (next value)) :
    Movable fun path => step path >>= fun value => next value path := by
  intro outer path
  have hmoved := hstep outer path
  simp only [hmoved]
  cases step path with
  | error failure => rfl
  | ok value => exact hnext value outer path

/-- What is done with the result of a step does not concern its path. -/
theorem map {step : RecordPath → Except Failure α} (hstep : Movable step) (f : α → β) :
    Movable fun path => step path >>= fun value => .ok (f value) :=
  hstep.bind fun value => .ok (f value)

theorem field {lower : RecordPath → Except Failure α} (h : Movable lower) (name : String) :
    Movable fun path => lower (path.field name) := by
  intro outer path
  have hmoved := h outer (path.field name)
  rw [← RecordPath.field_below] at hmoved
  exact hmoved

theorem item {lower : RecordPath → Except Failure α} (h : Movable lower) (name : String)
    (index : Nat) : Movable fun path => lower (path.item name index) := by
  intro outer path
  have hmoved := h outer (path.item name index)
  rw [← RecordPath.item_below] at hmoved
  exact hmoved

theorem eachFrom {lower : RecordPath → α → Except Failure β}
    (h : ∀ record, Movable fun path => lower path record) (name : String) (index : Nat)
    (records : List α) : Movable fun path => eachFrom path name lower index records := by
  induction records generalizing index with
  | nil => exact ok []
  | cons record rest ih =>
    -- the first record at its index, then the rest of the list from the next index on
    refine bind ((h record).item name index) fun node => ?_
    exact (ih (index + 1)).map fun nodes => node :: nodes

/-- A list of records is movable when each of them is. -/
theorem each {lower : RecordPath → α → Except Failure β}
    (h : ∀ record, Movable fun path => lower path record) (name : String) (records : List α) :
    Movable fun path => each path name lower records :=
  eachFrom h name 0 records

end Movable

theorem movable_check (acceptance : Acceptance) (modifiers : List Record.Modifier) :
    Movable fun path => acceptance.check path modifiers := by
  unfold Acceptance.check
  cases acceptance.misuseAfter? [] modifiers with
  | some cause => exact .misuse cause
  | none => exact .ok ()

theorem movable_limit? (modifiers : List Record.Modifier) :
    Movable fun path => limit? path modifiers := by
  unfold limit?
  split
  · exact .ok none
  · exact .ok _
  · exact .misuse .severalLimits

/-! ### Signatures and values -/

theorem movable_param (record : Record.Param) : Movable fun path => param path record :=
  (movable_check _ _).bind fun _ => .atPath _

theorem movable_params (records : List Record.Param) : Movable fun path => params path records :=
  .each movable_param "params" records

theorem movable_callable (record : Record.Callable) : Movable fun path => callable path record :=
  (movable_params record.params).map _

theorem movable_initialValue (converters : Converters) (defaultValue : Option String)
    (value : Option Record.Value) :
    Movable fun path => initialValue converters path defaultValue value := by
  cases defaultValue with
  | some expression =>
    cases value with
    | some value => exact .misuse .twoValues
    | none => exact .ok (some expression)
  | none =>
    cases value with
    | some value =>
      -- the constant has a step of its own on the path
      exact ((Movable.atPath (value.render converters)).field "value").map some
    | none => exact .ok none

/-! ### Members -/

theorem movable_property (converters : Converters) (record : Record.Property) :
    Movable fun path => property converters path record := by
  refine (movable_check _ _).bind fun _ => ?_
  exact (movable_initialValue converters _ _).bind fun _ => .atPath _

theorem movable_getter (record : Record.Getter) : Movable fun path => getter path record :=
  (movable_check _ _).bind fun _ => .atPath _

theorem movable_setter (record : Record.Setter) : Movable fun path => setter path record := by
  refine (movable_check _ _).bind fun _ => ?_
  exact ((movable_param record.param).field "param").bind fun _ => .atPath _

theorem movable_constructor (owner : String) (record : Record.Constructor) :
    Movable fun path => constructor owner path record := by
  refine (movable_check _ _).bind fun _ => ?_
  exact (movable_params record.params).bind fun _ => .atPath _

theorem movable_method (record : Record.Callable) : Movable fun path => method path record := by
  refine (movable_check _ _).bind fun _ => ?_
  exact (movable_callable record).bind fun _ => .atPath _

theorem movable_member (converters : Converters) (owner : String) (record : Record.Member) :
    Movable fun path => member converters owner path record := by
  cases record with
  | property record => exact (movable_property converters record).map Member.property
  | getter record => exact (movable_getter record).map Member.getter
  | setter record => exact (movable_setter record).map Member.setter
  | constructor record => exact (movable_constructor owner record).map Member.constructor
  | method record => exact (movable_method record).map Member.method

theorem movable_members (converters : Converters) (owner : String) (records : List Record.Member) :
    Movable fun path => members converters owner path records :=
  .each (movable_member converters owner) "members" records

/-! ### Declarations and directives -/

theorem movable_classDecl (converters : Converters) (record : Record.ClassDecl) :
    Movable fun path => classDecl converters path record := by
  refine (movable_check _ _).bind fun _ => ?_
  refine (movable_limit? record.modifiers).bind fun _ => ?_
  exact (movable_members converters record.name record.members).bind fun _ => .atPath _

theorem movable_enumConstant (record : Record.EnumConstant) :
    Movable fun path => enumConstant path record :=
  .atPath _

theorem movable_enumDecl (converters : Converters) (record : Record.EnumDecl) :
    Movable fun path => enumDecl converters path record := by
  refine (Movable.each movable_enumConstant "constants" record.constants).bind fun _ => ?_
  exact (movable_members converters record.name record.members).bind fun _ => .atPath _

theorem movable_mixinDecl (converters : Converters) (record : Record.MixinDecl) :
    Movable fun path => mixinDecl converters path record := by
  refine (movable_check _ _).bind fun _ => ?_
  refine (movable_limit? record.modifiers).bind fun _ => ?_
  exact (movable_members converters record.name record.members).bind fun _ => .atPath _

theorem movable_extensionDecl (converters : Converters) (record : Record.ExtensionDecl) :
    Movable fun path => extensionDecl converters path record :=
  (movable_members converters _ record.members).bind fun _ => .atPath _

theorem movable_functionDecl (record : Record.Callable) :
    Movable fun path => functionDecl path record := by
  refine (movable_check _ _).bind fun _ => ?_
  exact (movable_callable record).bind fun _ => .atPath _

theorem movable_variableDecl (converters : Converters) (record : Record.VariableDecl) :
    Movable fun path => variableDecl converters path record := by
  refine (movable_check _ _).bind fun _ => ?_
  exact (movable_initialValue converters _ _).bind fun _ => .atPath _

/-- **A declaration may be moved.** -/
theorem movable_declaration (converters : Converters) (record : Record.Declaration) :
    Movable fun path => declaration converters path record := by
  cases record with
  | classDecl record => exact (movable_classDecl converters record).map Declaration.classDecl
  | enumDecl record => exact (movable_enumDecl converters record).map Declaration.enumDecl
  | mixinDecl record => exact (movable_mixinDecl converters record).map Declaration.mixinDecl
  | extensionDecl record =>
    exact (movable_extensionDecl converters record).map Declaration.extensionDecl
  | functionDecl record => exact (movable_functionDecl record).map Declaration.functionDecl
  | «variable» record => exact (movable_variableDecl converters record).map Declaration.variable

/-- **A directive may be moved.** -/
theorem movable_directive (resolution : Resolution) (record : Record.Directive) :
    Movable fun path => directive resolution path record := by
  have hcheck : Movable fun path => checkDirective path record := by
    cases record with
    | importLib record => exact movable_check _ _
    | exportLib target shown hidden => exact .ok ()
    | part target => exact .ok ()
  exact hcheck.bind fun _ => .atPath _

/-! ### Records in lists -/

namespace Movable

variable {lower : RecordPath → Except Failure α}

/-- Where a movable record stands does not matter to the node that it gives. -/
theorem eq_ok_iff (h : Movable lower) (path : RecordPath) {node : α} :
    lower path = .ok node ↔ lower {} = .ok node := by
  have hmoved := h path {}
  rw [RecordPath.below_root] at hmoved
  rw [hmoved]
  cases lower {} with
  | ok other => exact Iff.rfl
  | error failure => exact ⟨fun h => absurd h (by rintro ⟨⟩), fun h => absurd h (by rintro ⟨⟩)⟩

/-- A movable record fails below the place where it stands. -/
theorem exists_path_of_error (h : Movable lower) {outer : RecordPath} {failure : Failure}
    (hfails : lower outer = .error failure) {path : RecordPath}
    (hpath : failure.path? = some path) :
    ∃ inner, path = RecordPath.below outer inner := by
  have hmoved := h outer {}
  rw [RecordPath.below_root, hfails] at hmoved
  cases hroot : lower {} with
  | ok node =>
    rw [hroot] at hmoved
    exact absurd hmoved (by rintro ⟨⟩)
  | error inner =>
    rw [hroot] at hmoved
    obtain rfl : failure = Failure.below outer inner := Except.error.inj hmoved
    rw [Failure.path?_below, Option.map_eq_some_iff] at hpath
    obtain ⟨rest, -, rfl⟩ := hpath
    exact ⟨rest, rfl⟩

/-- **The index of a record shows in its failure and nowhere else.** -/
theorem at_index (h : Movable lower) (name : String) (index : Nat) :
    lower (RecordPath.item {} name index) =
      (lower (RecordPath.item {} name 0)).mapError (Failure.renumber index) := by
  have hindex := h (RecordPath.item {} name index) {}
  have hfirst := h (RecordPath.item {} name 0) {}
  rw [RecordPath.below_root] at hindex hfirst
  rw [hindex, hfirst]
  cases lower {} with
  | ok node => rfl
  | error failure =>
    exact congrArg Except.error (Failure.renumber_below_item name index failure).symm

end Movable

end Lowering

end DartSource
