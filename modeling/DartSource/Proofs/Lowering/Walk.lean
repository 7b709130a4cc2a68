import DartSource.Lowering.Flags

/-!
# Records by their paths

The path of a failure is a walk through the description: from the library to one of its records,
from there to a record inside it, and so on. This module follows such a walk. A record of any kind
is an `Entry`; its `fields` and its `lists` say which records stand inside it and under which names,
and `Entry.step?` takes one step of a path. A walk that leaves the description leads nowhere.

A record that has keywords is checked against those that its kind accepts (`Entry.keywords?`). So a
path tells which check has failed there.
-/

namespace DartSource.Record

/-- A record of any kind. -/
inductive Entry where
  | library (record : Library)
  | output (record : Output)
  | partOf (record : PartOf)
  | directive (record : Directive)
  | declaration (record : Declaration)
  | constant (record : EnumConstant)
  | member (record : Member)
  | param (record : Param)
  | value (record : Value)

namespace Entry

/-- The records in the fields of a record. -/
def fields : Entry → List (String × Entry)
  | .library record => [("output", .output record.output)]
  | .output record => record.partOf.toList.map fun owner => ("part_of", .partOf owner)
  | .declaration (.variable record) => record.value.toList.map fun value => ("value", .value value)
  | .member (.property record) => record.value.toList.map fun value => ("value", .value value)
  | .member (.setter record) => [("param", .param record.param)]
  | _ => []

/-- The lists of records inside a record. -/
def lists : Entry → List (String × List Entry)
  | .library record =>
    [("directives", record.directives.map directive),
     ("declarations", record.declarations.map declaration)]
  | .declaration (.classDecl record) => [("members", record.members.map member)]
  | .declaration (.enumDecl record) =>
    [("constants", record.constants.map constant), ("members", record.members.map member)]
  | .declaration (.mixinDecl record) => [("members", record.members.map member)]
  | .declaration (.extensionDecl record) => [("members", record.members.map member)]
  | .declaration (.functionDecl record) => [("params", record.params.map param)]
  | .member (.constructor record) => [("params", record.params.map param)]
  | .member (.method record) => [("params", record.params.map param)]
  | _ => []

/-- The record that a step leads to. -/
def step? (entry : Entry) : RecordPath.Step → Option Entry
  | .field name => entry.fields.lookup name
  | .item name index => (entry.lists.lookup name).bind fun entries => entries[index]?

/-- The record at the end of a walk. -/
def follow? : Entry → List RecordPath.Step → Option Entry
  | entry, [] => some entry
  | entry, step :: rest => (entry.step? step).bind fun inner => inner.follow? rest

/-- The keywords of a record, with those that records of its kind accept. Exports, parts, enums,
extensions and enum constants have none. -/
def keywords? : Entry → Option (Acceptance × List Modifier)
  | .directive (.importLib record) => some (.anImport, record.modifiers)
  | .declaration (.classDecl record) => some (.aClass, record.modifiers)
  | .declaration (.mixinDecl record) => some (.aMixin, record.modifiers)
  | .declaration (.functionDecl record) => some (.aFunction, record.modifiers)
  | .declaration (.variable record) => some (.aVariable, record.modifiers)
  | .member (.property record) => some (.aProperty, record.modifiers)
  | .member (.getter record) => some (.aGetter, record.modifiers)
  | .member (.setter record) => some (.aSetter, record.modifiers)
  | .member (.constructor record) => some (.aConstructor, record.modifiers)
  | .member (.method record) => some (.aMethod, record.modifiers)
  | .param record => some (.aParameter, record.modifiers)
  | _ => none

/-- The failure is that of the check of the record's own keywords, made at the path. -/
def Refused (entry : Entry) (path : RecordPath) (failure : Failure) : Prop :=
  ∃ acceptance modifiers, entry.keywords? = some (acceptance, modifiers) ∧
    acceptance.check path modifiers = .error failure

theorem follow?_step {entry inner : Entry} {step : RecordPath.Step}
    (h : entry.step? step = some inner) (rest : List RecordPath.Step) :
    entry.follow? (step :: rest) = inner.follow? rest := by
  rw [follow?, h, Option.bind_some]

/-- A step into a list finds the record at the index. -/
theorem step?_item {entry : Entry} {name : String} {entries : List Entry}
    (h : entry.lists.lookup name = some entries) (index : Nat) :
    entry.step? (.item name index) = entries[index]? := by
  rw [step?, h, Option.bind_some]

/-- Keywords are refused where they stand, as a record that makes no sense. -/
theorem Refused.eq_record {entry : Entry} {path : RecordPath} {failure : Failure}
    (h : entry.Refused path failure) : ∃ cause, failure = .record path cause := by
  obtain ⟨acceptance, modifiers, -, hcheck⟩ := h
  unfold Acceptance.check at hcheck
  cases hmisuse : acceptance.misuseAfter? [] modifiers with
  | none =>
    rw [hmisuse] at hcheck
    exact absurd hcheck (by simp)
  | some cause =>
    rw [hmisuse] at hcheck
    exact ⟨cause, (Except.error.inj hcheck).symm⟩

end Entry

/-- The record of a library that a path leads to. -/
def Library.recordAt? (library : Library) (path : RecordPath) : Option Entry :=
  (Entry.library library).follow? path.steps

end DartSource.Record
