import DartSource.Proofs.Assoc
import DartSource.Record.Basic
import Mathlib.Data.List.Basic
import Mathlib.Data.List.Nodup

/-!
# Records with their names in order

A description binds names of the author's choice in two places: the fields of custom constants and
the labelled arguments of constructors and enum constants. `sorted` puts the names of every such
table in ascending order and leaves everything else as it is.

Where each table binds a name once, as it does in every library that is well formed
(`Library.WellFormed`), the order of its names does not count, so a record and its sorted form are
compared constant by constant. They are the same but for doubles that are not a number, which differ
even from themselves: `Library.sorted_beq`.
-/

namespace DartSource

/-! ### Sorting by name -/

namespace Assoc

variable {α β : Type}

/-- Entries by ascending name. -/
def sort (entries : List (String × α)) : List (String × α) :=
  entries.mergeSort fun a b => decide (a.1 ≤ b.1)

theorem sort_perm (entries : List (String × α)) : (sort entries).Perm entries :=
  List.mergeSort_perm _ _

/-- Entries are sorted by their names, whatever they are bound to. -/
theorem sort_map (f : α → β) (entries : List (String × α)) :
    sort (entries.map (Prod.map id f)) = (sort entries).map (Prod.map id f) :=
  (List.map_mergeSort (f := Prod.map id f) fun _ _ _ _ => rfl).symm

theorem nodup_names_sort {entries : List (String × α)} (h : (entries.map Prod.fst).Nodup) :
    ((sort entries).map Prod.fst).Nodup :=
  ((sort_perm entries).map Prod.fst).nodup_iff.mpr h

/-- Entries that are in order of their names bind what they bind in any order. -/
theorem sameBindings_sort (eq : α → α → Bool) {entries : List (String × α)}
    (h : (entries.map Prod.fst).Nodup) :
    sameBindings eq (sort entries) entries = entries.all fun entry => eq entry.2 entry.2 := by
  unfold sameBindings
  rw [(sort_perm entries).length_eq, beq_self_eq_true, Bool.true_and, (sort_perm entries).all_eq]
  rw [Bool.eq_iff_iff, List.all_eq_true, List.all_eq_true]
  exact forall₂_congr fun entry hentry => by rw [get?_of_mem h hentry]

end Assoc

namespace Record

/-! ### What is inside a record -/

namespace Value

mutual

/-- The constant and all constants inside it. -/
def parts : Value → List Value
  | .list items => .list items :: itemsParts items
  | .custom type fields => .custom type fields :: fieldsParts fields
  | .map entries => .map entries :: entriesParts entries
  | value => [value]

/-- All constants inside the items of a list. -/
def itemsParts : List Value → List Value
  | [] => []
  | item :: rest => parts item ++ itemsParts rest

/-- All constants inside the fields of a custom value. -/
def fieldsParts : List (String × Value) → List Value
  | [] => []
  | (_, value) :: rest => parts value ++ fieldsParts rest

/-- All constants inside the entries of a map. -/
def entriesParts : List (Value × Value) → List Value
  | [] => []
  | (key, value) :: rest => parts key ++ parts value ++ entriesParts rest

end

/-- A custom value binds each of its fields once. -/
def BindsOnce : Value → Prop
  | .custom _ fields => (fields.map Prod.fst).Nodup
  | _ => True

/-- The constant is a double that is not a number. -/
def isNaN : Value → Bool
  | .double value => value.isNaN
  | _ => false

mutual

/-- The constant with the fields of its custom values in order. -/
def sorted : Value → Value
  | .list items => .list (sortedItems items)
  | .custom type fields => .custom type (Assoc.sort (sortedFields fields))
  | .map entries => .map (sortedEntries entries)
  | value => value

/-- The items of a list, each with its fields in order. -/
def sortedItems : List Value → List Value
  | [] => []
  | item :: rest => sorted item :: sortedItems rest

/-- The fields of a custom value, each with its own fields in order. -/
def sortedFields : List (String × Value) → List (String × Value)
  | [] => []
  | (name, value) :: rest => (name, sorted value) :: sortedFields rest

/-- The entries of a map, each with its fields in order. -/
def sortedEntries : List (Value × Value) → List (Value × Value)
  | [] => []
  | (key, value) :: rest => (sorted key, sorted value) :: sortedEntries rest

end

end Value

/-- Each label is used once. -/
def Labelled.BindsOnce (labelled : Labelled) : Prop :=
  (labelled.entries.map Prod.fst).Nodup

/-- The same texts with their names in order. -/
def Labelled.sorted (labelled : Labelled) : Labelled :=
  ⟨Assoc.sort labelled.entries⟩

/-- The call with its labels in order. -/
def Call.sorted (call : Call) : Call :=
  { call with named := call.named.sorted }

namespace Initializer

/-- The labelled arguments of a call. -/
def labels : Initializer → List Labelled
  | .superCall call | .redirect call => [call.named]
  | _ => []

/-- The initializer with its labels in order. -/
def sorted : Initializer → Initializer
  | .superCall call => .superCall call.sorted
  | .redirect call => .redirect call.sorted
  | entry => entry

end Initializer

/-- The field with the names inside its constant in order. -/
def Property.sorted (record : Property) : Property :=
  { record with value := record.value.map Value.sorted }

/-- The constructor with its labels in order. -/
def Constructor.sorted (record : Constructor) : Constructor :=
  { record with initializers := record.initializers.map Initializer.sorted }

namespace Member

/-- All constants inside the member. -/
def constants : Member → List Value
  | .property record => record.value.toList.flatMap Value.parts
  | _ => []

/-- The labelled arguments of all calls inside the member. -/
def labels : Member → List Labelled
  | .constructor record => record.initializers.flatMap Initializer.labels
  | _ => []

/-- The member with all its names in order. -/
def sorted : Member → Member
  | .property record => .property record.sorted
  | .constructor record => .constructor record.sorted
  | member => member

end Member

/-- The class with all names inside it in order. -/
def ClassDecl.sorted (record : ClassDecl) : ClassDecl :=
  { record with members := record.members.map Member.sorted }

/-- The constant of an enum with its labels in order. -/
def EnumConstant.sorted (record : EnumConstant) : EnumConstant :=
  { record with named := record.named.sorted }

/-- The enum with all names inside it in order. -/
def EnumDecl.sorted (record : EnumDecl) : EnumDecl :=
  { record with
    constants := record.constants.map EnumConstant.sorted
    members := record.members.map Member.sorted }

/-- The mixin with all names inside it in order. -/
def MixinDecl.sorted (record : MixinDecl) : MixinDecl :=
  { record with members := record.members.map Member.sorted }

/-- The extension with all names inside it in order. -/
def ExtensionDecl.sorted (record : ExtensionDecl) : ExtensionDecl :=
  { record with members := record.members.map Member.sorted }

/-- The variable with the names inside its constant in order. -/
def VariableDecl.sorted (record : VariableDecl) : VariableDecl :=
  { record with value := record.value.map Value.sorted }

namespace Declaration

/-- The members of the declaration. -/
def members : Declaration → List Member
  | .classDecl record => record.members
  | .enumDecl record => record.members
  | .mixinDecl record => record.members
  | .extensionDecl record => record.members
  | .functionDecl _ | .variable _ => []

/-- All constants inside the declaration. -/
def constants : Declaration → List Value
  | .variable record => record.value.toList.flatMap Value.parts
  | declaration => declaration.members.flatMap Member.constants

/-- The labelled arguments of all calls inside the declaration. -/
def labels : Declaration → List Labelled
  | .enumDecl record =>
    record.constants.map EnumConstant.named ++ record.members.flatMap Member.labels
  | declaration => declaration.members.flatMap Member.labels

/-- The declaration with all its names in order. -/
def sorted : Declaration → Declaration
  | .classDecl record => .classDecl record.sorted
  | .enumDecl record => .enumDecl record.sorted
  | .mixinDecl record => .mixinDecl record.sorted
  | .extensionDecl record => .extensionDecl record.sorted
  | .functionDecl record => .functionDecl record
  | .variable record => .variable record.sorted

end Declaration

namespace Library

/-- All constants inside the library. -/
def constants (library : Library) : List Value :=
  library.declarations.flatMap Declaration.constants

/-- The labelled arguments of all calls inside the library. -/
def labels (library : Library) : List Labelled :=
  library.declarations.flatMap Declaration.labels

/-- The library with all its names in order. -/
def sorted (library : Library) : Library :=
  { library with declarations := library.declarations.map Declaration.sorted }

end Library

/-! ### Names that are bound once -/

/-- Each of these tables binds each of its names once. -/
structure NamesOnce (labels : List Labelled) (constants : List Value) : Prop where
  labels : ∀ labelled ∈ labels, labelled.BindsOnce
  constants : ∀ constant ∈ constants, constant.BindsOnce

/-- The tables inside a list are the tables inside its items. -/
theorem namesOnce_flatMap_iff {α : Type} {labels : α → List Labelled}
    {constants : α → List Value} {items : List α} :
    NamesOnce (items.flatMap labels) (items.flatMap constants) ↔
      ∀ item ∈ items, NamesOnce (labels item) (constants item) := by
  constructor
  · intro h item hitem
    refine ⟨fun labelled hinside => ?_, fun constant hinside => ?_⟩
    · exact h.labels labelled (List.mem_flatMap_of_mem hitem hinside)
    · exact h.constants constant (List.mem_flatMap_of_mem hitem hinside)
  · intro h
    refine ⟨List.forall_mem_flatMap.mpr ?_, List.forall_mem_flatMap.mpr ?_⟩
    · exact fun item hitem => (h item hitem).labels
    · exact fun item hitem => (h item hitem).constants

/-- What the parts of a library promise: an indentation fits into a byte, and each label and each
field of a custom constant is named once. -/
structure Library.WellFormed (library : Library) : Prop where
  indent : ∀ width ∈ library.output.indent, width ≤ 255
  names : NamesOnce library.labels library.constants

/-! ### Comparing constants -/

namespace Value

theorem sameFields_eq (fields others : List (String × Value)) :
    sameFields fields others =
      fields.all fun field => (Assoc.get? field.1 others).any (same field.2) := by
  induction fields with
  | nil => rw [sameFields, List.all_nil]
  | cons field rest ih =>
    rw [sameFields, ih, List.all_cons]
    cases Assoc.get? field.1 others with
    | none => rfl
    | some other => rfl

theorem numEq_self (value : Double) : value.numEq value = !value.isNaN := by
  simp [Double.numEq]

theorem names_sortedFields (fields : List (String × Value)) :
    (sortedFields fields).map Prod.fst = fields.map Prod.fst := by
  induction fields with
  | nil => rfl
  | cons field rest ih => rw [sortedFields, List.map_cons, List.map_cons, ih]

mutual

theorem same_sorted : ∀ {value : Value}, (∀ part ∈ value.parts, part.BindsOnce) →
    same value.sorted value = value.parts.all fun part => !part.isNaN
  | .null, _ | .bool _, _ | .int _, _ | .text _, _ | .enumValue _ _, _ => by
    simp [sorted, same, parts, isNaN]
  | .double value, _ => by
    simp [sorted, same, parts, isNaN, numEq_self]
  | .list items, h => by
    rw [parts, List.forall_mem_cons] at h
    rw [sorted, same, sameItems_sortedItems h.2]
    simp [parts, isNaN]
  | .custom type fields, h => by
    rw [parts, List.forall_mem_cons] at h
    have hnodup : (fields.map Prod.fst).Nodup := h.1
    have hlength : (Assoc.sort (sortedFields fields)).length = fields.length := by
      rw [(Assoc.sort_perm _).length_eq, ← List.length_map (f := Prod.fst), names_sortedFields,
        List.length_map]
    -- every field is looked up by its name, so the fields may be asked in any order
    rw [sorted, same, hlength, sameFields_eq, (Assoc.sort_perm _).all_eq, ← sameFields_eq,
      sameFields_sortedFields h.2 fun field hfield => Assoc.get?_of_mem hnodup hfield]
    simp [parts, isNaN]
  | .map entries, h => by
    rw [parts, List.forall_mem_cons] at h
    rw [sorted, same, sameEntries_sortedEntries h.2]
    simp [parts, isNaN]

theorem sameItems_sortedItems : ∀ {items : List Value},
    (∀ part ∈ itemsParts items, part.BindsOnce) →
    sameItems (sortedItems items) items = (itemsParts items).all fun part => !part.isNaN
  | [], _ => by rw [sortedItems, sameItems, itemsParts, List.all_nil]
  | item :: rest, h => by
    rw [itemsParts, List.forall_mem_append] at h
    rw [sortedItems, sameItems, same_sorted h.1, sameItems_sortedItems h.2, itemsParts,
      List.all_append]

/-- The fields are some of those of a value that binds each of them as they do. -/
theorem sameFields_sortedFields : ∀ {fields others : List (String × Value)},
    (∀ part ∈ fieldsParts fields, part.BindsOnce) →
    (∀ field ∈ fields, Assoc.get? field.1 others = some field.2) →
    sameFields (sortedFields fields) others = (fieldsParts fields).all fun part => !part.isNaN
  | [], _, _, _ => by rw [sortedFields, sameFields, fieldsParts, List.all_nil]
  | (name, value) :: rest, others, h, hget => by
    rw [fieldsParts, List.forall_mem_append] at h
    rw [List.forall_mem_cons] at hget
    rw [sortedFields, sameFields, hget.1, sameFields_sortedFields h.2 hget.2, fieldsParts,
      List.all_append, ← same_sorted h.1]

theorem sameEntries_sortedEntries : ∀ {entries : List (Value × Value)},
    (∀ part ∈ entriesParts entries, part.BindsOnce) →
    sameEntries (sortedEntries entries) entries =
      (entriesParts entries).all fun part => !part.isNaN
  | [], _ => by rw [sortedEntries, sameEntries, entriesParts, List.all_nil]
  | (key, value) :: rest, h => by
    rw [entriesParts, List.forall_mem_append, List.forall_mem_append] at h
    rw [sortedEntries, sameEntries, same_sorted h.1.1, same_sorted h.1.2,
      sameEntries_sortedEntries h.2, entriesParts, List.all_append, List.all_append]

end

end Value

/-! ### Comparing records -/

section Items

variable {α : Type} [BEq α]

theorem map_beq_self (f : α → α) (items : List α) :
    (items.map f == items) = items.all fun item => f item == item := by
  induction items with
  | nil => rfl
  | cons item rest ih => rw [List.map_cons, List.cons_beq_cons, ih, List.all_cons]

/-- Items that are compared part by part are compared as a list by all their parts. -/
theorem map_beq_self_of_parts {β : Type} {f : α → α} {parts : α → List β} {p : β → Bool}
    {items : List α} (h : ∀ item ∈ items, (f item == item) = (parts item).all p) :
    (items.map f == items) = (items.flatMap parts).all p := by
  rw [map_beq_self, List.all_flatMap, Bool.eq_iff_iff, List.all_eq_true, List.all_eq_true]
  exact forall₂_congr fun item hitem => by rw [h item hitem]

end Items

deriving instance ReflBEq for Param, Callable, Getter, Setter, AssetRef, Target, Import, Directive,
  PartOf, Output

theorem Labelled.sorted_beq {labelled : Labelled} (h : labelled.BindsOnce) :
    (labelled.sorted == labelled) = true := by
  have hsame := Assoc.sameBindings_sort (fun x y => x == y) h
  exact hsame.trans (List.all_eq_true.mpr fun entry _ => beq_self_eq_true entry.2)

theorem Call.sorted_beq {call : Call} (h : call.named.BindsOnce) :
    (call.sorted == call) = true := by
  -- records are compared field by field, here and below
  change instBEqCall.beq _ _ = true
  simp [instBEqCall.beq, Call.sorted, Labelled.sorted_beq h]

theorem Initializer.sorted_beq {entry : Initializer}
    (h : ∀ labelled ∈ entry.labels, labelled.BindsOnce) : (entry.sorted == entry) = true := by
  cases entry with
  | assert condition message =>
    change instBEqInitializer.beq _ _ = true
    simp [instBEqInitializer.beq, sorted]
  | field name value =>
    change instBEqInitializer.beq _ _ = true
    simp [instBEqInitializer.beq, sorted]
  | superCall call => exact Call.sorted_beq (h call.named List.mem_cons_self)
  | redirect call => exact Call.sorted_beq (h call.named List.mem_cons_self)

/-- The constant of a record that need not have one. -/
theorem Value.map_sorted_beq {value : Option Value}
    (h : ∀ part ∈ value.toList.flatMap parts, part.BindsOnce) :
    (value.map sorted == value) = (value.toList.flatMap parts).all fun part => !part.isNaN := by
  cases value with
  | none => rfl
  | some value =>
    rw [Option.toList_some, List.flatMap_singleton] at h ⊢
    exact same_sorted h

theorem Property.sorted_beq {record : Property}
    (h : ∀ part ∈ record.value.toList.flatMap Value.parts, part.BindsOnce) :
    (record.sorted == record) =
      (record.value.toList.flatMap Value.parts).all fun part => !part.isNaN := by
  change instBEqProperty.beq _ _ = _
  simp [instBEqProperty.beq, sorted, Value.map_sorted_beq h]

theorem Constructor.sorted_beq {record : Constructor}
    (h : ∀ labelled ∈ record.initializers.flatMap Initializer.labels, labelled.BindsOnce) :
    (record.sorted == record) = true := by
  have hentries : (record.initializers.map Initializer.sorted == record.initializers) = true := by
    rw [map_beq_self, List.all_eq_true]
    exact fun entry hentry => Initializer.sorted_beq fun labelled hlabelled =>
      h labelled (List.mem_flatMap_of_mem hentry hlabelled)
  change instBEqConstructor.beq _ _ = _
  simp [instBEqConstructor.beq, sorted, hentries]

theorem Member.sorted_beq {member : Member} (h : NamesOnce member.labels member.constants) :
    (member.sorted == member) = member.constants.all fun part => !part.isNaN := by
  cases member with
  | property record => exact Property.sorted_beq h.constants
  | getter record => exact beq_self_eq_true record
  | setter record => exact beq_self_eq_true record
  | constructor record => exact Constructor.sorted_beq h.labels
  | method record => exact beq_self_eq_true record

theorem Member.map_sorted_beq {members : List Member}
    (h : NamesOnce (members.flatMap labels) (members.flatMap constants)) :
    (members.map sorted == members) =
      (members.flatMap constants).all fun part => !part.isNaN :=
  map_beq_self_of_parts fun member hmember =>
    sorted_beq (namesOnce_flatMap_iff.mp h member hmember)

theorem EnumConstant.map_sorted_beq {records : List EnumConstant}
    (h : ∀ labelled ∈ records.map named, labelled.BindsOnce) :
    (records.map sorted == records) = true := by
  rw [map_beq_self, List.all_eq_true]
  intro record hrecord
  have hnamed := Labelled.sorted_beq (h record.named (List.mem_map_of_mem hrecord))
  change instBEqEnumConstant.beq _ _ = true
  simp [instBEqEnumConstant.beq, sorted, hnamed]

theorem Declaration.sorted_beq {declaration : Declaration}
    (h : NamesOnce declaration.labels declaration.constants) :
    (declaration.sorted == declaration) =
      declaration.constants.all fun part => !part.isNaN := by
  cases declaration with
  | classDecl record =>
    have hmembers : (record.members.map Member.sorted == record.members) = _ :=
      Member.map_sorted_beq h
    change instBEqClassDecl.beq record.sorted record = _
    simp [instBEqClassDecl.beq, ClassDecl.sorted, hmembers, constants, members]
  | enumDecl record =>
    have hlabels := List.forall_mem_append.mp h.labels
    have hconstants := EnumConstant.map_sorted_beq hlabels.1
    have hmembers : (record.members.map Member.sorted == record.members) = _ :=
      Member.map_sorted_beq ⟨hlabels.2, h.constants⟩
    change instBEqEnumDecl.beq record.sorted record = _
    simp [instBEqEnumDecl.beq, EnumDecl.sorted, hconstants, hmembers, constants, members]
  | mixinDecl record =>
    have hmembers : (record.members.map Member.sorted == record.members) = _ :=
      Member.map_sorted_beq h
    change instBEqMixinDecl.beq record.sorted record = _
    simp [instBEqMixinDecl.beq, MixinDecl.sorted, hmembers, constants, members]
  | extensionDecl record =>
    have hmembers : (record.members.map Member.sorted == record.members) = _ :=
      Member.map_sorted_beq h
    change instBEqExtensionDecl.beq record.sorted record = _
    simp [instBEqExtensionDecl.beq, ExtensionDecl.sorted, hmembers, constants, members]
  | functionDecl record => exact beq_self_eq_true record
  | «variable» record =>
    change instBEqVariableDecl.beq record.sorted record = _
    simp [instBEqVariableDecl.beq, VariableDecl.sorted, constants,
      Value.map_sorted_beq h.constants]

/-- **A library is the same as its sorted form unless it holds a double that is not a number.** -/
theorem Library.sorted_beq {library : Library} (h : library.WellFormed) :
    (library.sorted == library) = library.constants.all fun part => !part.isNaN := by
  have hdeclarations : (library.declarations.map Declaration.sorted == library.declarations) =
      library.constants.all fun part => !part.isNaN :=
    map_beq_self_of_parts fun declaration hmem =>
      Declaration.sorted_beq (namesOnce_flatMap_iff.mp h.names declaration hmem)
  change instBEqLibrary.beq _ _ = _
  simp [instBEqLibrary.beq, sorted, hdeclarations]

end Record

end DartSource
