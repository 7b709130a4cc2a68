import DartSource.Lowering.Library
import DartSource.Proofs.Record.Members

/-!
# Descriptions that are written and read

A library that is written as a tree is read back from it. What comes back is the library with all
its names in order (`reads_library`), which is the same library as long as its doubles are numbers.
Writing fails for nothing but nulls (`writeLibrary_eq_none_iff`).

The library has to keep what its parts promise: an indentation fits into a byte, and labels and the
fields of custom constants are named once each (`Library.WellFormed`). Every library that a text
describes does (`Library.wellFormed_of_parse`).
-/

namespace DartSource.Record

open Fields

/-! ### Declarations -/

theorem reads_enumConstant {record : EnumConstant} (h : record.named.BindsOnce) :
    Reads readEnumConstant (writeEnumConstant record) record.sorted := by
  have hargs := Reads.optional_self reads_texts record.args
  have hnamed := (reads_labelled h).read_eq
  refine Reads.ofEntries ?_ fun _ => ?_
  · simp [Option.all_map]
  · simp [readEnumConstant, hargs, hnamed, EnumConstant.sorted]

theorem reads_enumConstants {records : List EnumConstant}
    (h : ∀ labelled ∈ records.map EnumConstant.named, labelled.BindsOnce) :
    Reads (readList readEnumConstant) (.list (records.map writeEnumConstant))
      (records.map EnumConstant.sorted) :=
  Reads.list fun record hrecord =>
    reads_enumConstant (h record.named (List.mem_map_of_mem hrecord))

theorem reads_declaration {declaration : Declaration} {tree : Tree}
    (hwrite : writeDeclaration declaration = some tree)
    (honce : NamesOnce declaration.labels declaration.constants) :
    Reads readDeclaration tree declaration.sorted := by
  cases declaration with
  | classDecl record =>
    rw [writeDeclaration] at hwrite
    obtain ⟨members, rfl, hmembers⟩ := exists_members hwrite honce
    refine Reads.ofEntries ?_ fun hreadable => ?_
    · simp [hmembers.isReadable]
    · rw [readDeclaration, if_pos hreadable]
      simp [readClass, hmembers.read_eq, Declaration.sorted, ClassDecl.sorted]
  | enumDecl record =>
    rw [writeDeclaration] at hwrite
    have hlabels := List.forall_mem_append.mp honce.labels
    obtain ⟨members, rfl, hmembers⟩ := exists_members hwrite ⟨hlabels.2, honce.constants⟩
    have hconstants := reads_enumConstants hlabels.1
    refine Reads.ofEntries ?_ fun hreadable => ?_
    · simpa [hmembers.isReadable] using hconstants.isReadable
    · rw [readDeclaration, if_pos hreadable]
      simp [readEnum, hconstants.read_eq, hmembers.read_eq, Declaration.sorted, EnumDecl.sorted]
  | mixinDecl record =>
    rw [writeDeclaration] at hwrite
    obtain ⟨members, rfl, hmembers⟩ := exists_members hwrite honce
    refine Reads.ofEntries ?_ fun hreadable => ?_
    · simp [hmembers.isReadable]
    · rw [readDeclaration, if_pos hreadable]
      simp [readMixin, hmembers.read_eq, Declaration.sorted, MixinDecl.sorted]
  | extensionDecl record =>
    rw [writeDeclaration] at hwrite
    obtain ⟨members, rfl, hmembers⟩ := exists_members hwrite honce
    refine Reads.ofEntries ?_ fun hreadable => ?_
    · simp [hmembers.isReadable]
    · rw [readDeclaration, if_pos hreadable]
      simp [readExtension, hmembers.read_eq, Declaration.sorted, ExtensionDecl.sorted]
  | functionDecl record =>
    obtain rfl := Option.some.inj hwrite
    obtain ⟨fields, hfields, hkind, hread⟩ := exists_fields_writeCallable "function" record
    have hreadable := isReadable_writeCallable "function" record
    refine ⟨hreadable, by simp [hfields], ?_⟩
    rw [readDeclaration, if_pos hreadable]
    simp [hfields, hkind, hread, Declaration.sorted]
  | «variable» record =>
    rw [writeDeclaration] at hwrite
    obtain ⟨slot, rfl, hslotReadable, hslot⟩ := exists_slot hwrite honce.constants
    refine Reads.ofEntries ?_ fun hreadable => ?_
    · simpa using hslotReadable
    · rw [readDeclaration, if_pos hreadable]
      simp [readVariable, hslot, Declaration.sorted, VariableDecl.sorted]

/-! ### Directives -/

theorem reads_asset (surplus : Bool) (asset : AssetRef) :
    Reads (readAsset surplus) (writeAsset asset) asset := by
  refine Reads.ofEntries (by simp) fun hreadable => ?_
  rw [readAsset, ofTree?_ofEntries _ _ hreadable]
  simp

/-- The entry says what a directive points at. -/
def isTarget (entry : String × Tree) : Bool :=
  entry.1 == "uri" || entry.1 == "asset"

/-- Only the entries that say what a directive points at are looked at. -/
theorem readTarget_filter (fields : Fields) :
    readTarget (fields.filter isTarget) = readTarget fields := by
  induction fields with
  | nil => rfl
  | cons entry rest ih =>
    by_cases htarget : isTarget entry
    · rw [List.filter_cons_of_pos htarget, readTarget, readTarget, ih]
    · have hname : entry.1 ≠ "uri" ∧ entry.1 ≠ "asset" := by simpa [isTarget] using htarget
      rw [List.filter_cons_of_neg htarget, readTarget, if_neg hname.1, if_neg hname.2, ih]

/-- A single entry is found wherever it stands. -/
theorem readTarget_sortEntries {entries : Fields} (h : (entries.filter isTarget).length ≤ 1) :
    readTarget (Tree.sortEntries entries) = readTarget (entries.filter isTarget) := by
  have hperm := (Tree.sortEntries_perm entries).filter isTarget
  rw [← readTarget_filter]
  -- of a list that has no two items, there is no other order
  generalize entries.filter isTarget = targets at h hperm ⊢
  cases targets with
  | nil => rw [hperm.eq_nil]
  | cons target rest =>
    obtain rfl : rest = [] := by simpa using h
    rw [hperm.eq_singleton]

@[simp] theorem readTarget_targetField (target : Target) :
    readTarget [targetField target] = some target := by
  cases target with
  | uri text => simp [readTarget, targetField]
  | asset asset => simp [readTarget, targetField, (reads_asset false asset).read_eq]

@[simp] theorem isTarget_targetField (target : Target) : isTarget (targetField target) = true := by
  cases target <;> rfl

@[simp] theorem isTarget_mk (name : String) (tree : Tree) :
    isTarget (name, tree) = (name == "uri" || name == "asset") :=
  rfl

@[simp] theorem isTarget_modifiersField (modifiers : List Modifier) :
    isTarget (modifiersField modifiers) = false :=
  rfl

/-- What a directive points at is not one of its other fields. -/
@[simp] theorem targetField_beq (target : Target) {name : String} (huri : "uri" ≠ name)
    (hasset : "asset" ≠ name) : ((targetField target).1 == name) = false := by
  cases target with
  | uri text => exact beq_eq_false_iff_ne.mpr huri
  | asset asset => exact beq_eq_false_iff_ne.mpr hasset

@[simp] theorem isReadable_targetField (target : Target) :
    (targetField target).2.isReadable = true := by
  cases target with
  | uri text => exact Tree.isReadable_text text
  | asset asset => exact (reads_asset false asset).isReadable

theorem reads_directive (directive : Directive) :
    Reads readDirective (writeDirective directive) directive := by
  cases directive with
  | importLib record =>
    -- behind the target there is nothing else that a directive could point at
    have hqualifier : (optionalText "as" record.qualifier).filter isTarget = [] := by
      cases record.qualifier <;> simp [optionalText, optionalField]
    refine Reads.ofEntries (by simp) fun hreadable => ?_
    rw [readDirective, if_pos hreadable, ofTable?_ofEntries]
    simp [readImport, readTarget_sortEntries, hqualifier]
  | exportLib target shown hidden =>
    refine Reads.ofEntries (by simp) fun hreadable => ?_
    rw [readDirective, if_pos hreadable, ofTable?_ofEntries]
    simp [readTarget_sortEntries]
  | part target =>
    refine Reads.ofEntries (by simp) fun hreadable => ?_
    rw [readDirective, if_pos hreadable, ofTable?_ofEntries]
    simp [readTarget_sortEntries]

/-! ### Descriptions -/

theorem reads_partOf (surplus : Bool) (owner : PartOf) :
    Reads (readPartOf surplus) (writePartOf owner) owner := by
  cases owner with
  | library name => exact ⟨by simp [writePartOf], by simp [writePartOf], rfl⟩
  | uri text => exact ⟨by simp [writePartOf], by simp [writePartOf], rfl⟩
  | asset asset =>
    have hasset := reads_asset surplus asset
    refine ⟨by simp [writePartOf, hasset.isReadable], by simp [writePartOf], ?_⟩
    simp [readPartOf, writePartOf, readForm, hasset.read_eq]

theorem reads_width {width : Nat} (h : width ≤ 255) : Reads readWidth (.int width) width := by
  refine ⟨by simp [Tree.isReadable], by simp, ?_⟩
  have hrange : (0 : Int) ≤ width ∧ (width : Int) ≤ 255 := by omega
  simp [readWidth, Tree.integer?, hrange]

-- the width is turned into an integer before it becomes a tree, and here at once
theorem writeOutput_eq (output : Output) :
    writeOutput output = .ofEntries
      (optionalText "generator" output.generator ++
        optionalField "indent" (output.indent.map fun width : Nat => .int width) ++
        optionalField "part_of" (output.partOf.map writePartOf) ++
        optionalField "asset" (output.asset.map writeAsset)) := by
  unfold writeOutput
  cases output.indent with
  | none => rfl
  | some width => rfl

theorem reads_output (surplus : Bool) {output : Output}
    (h : ∀ width ∈ output.indent, width ≤ 255) :
    Reads (readOutput surplus) (writeOutput output) output := by
  have hindent := Reads.optional fun width hwidth => reads_width (h width hwidth)
  have hpartOf := Reads.optional_self (reads_partOf surplus) output.partOf
  have hasset := Reads.optional_self (reads_asset surplus) output.asset
  rw [Option.map_id'] at hindent
  rw [writeOutput_eq]
  refine Reads.ofEntries ?_ fun hreadable => ?_
  · simp [Option.all_map, Tree.isReadable, (reads_partOf surplus _).isReadable,
      (reads_asset surplus _).isReadable]
  · rw [readOutput, ofTree?_ofEntries _ _ hreadable]
    simp [onlyNames, outputNames, hindent, hpartOf, hasset, optionalText]

/-- **A library is read back from its tree, with its names in order.** -/
theorem reads_library (surplus : Bool) {library : Library} {tree : Tree}
    (h : library.WellFormed) (hwrite : writeLibrary library = some tree) :
    Reads (readLibrary surplus) tree library.sorted := by
  obtain ⟨trees, htrees, htree⟩ := Option.bind_eq_some_iff.mp hwrite
  obtain rfl := Option.some.inj htree
  have houtput := reads_output surplus h.indent
  have hdirectives := Reads.list_self reads_directive library.directives
  have hdeclarations := Reads.of_mapM htrees fun declaration hmem tree htree =>
    reads_declaration htree (namesOnce_flatMap_iff.mp h.names declaration hmem)
  refine Reads.ofEntries ?_ fun hreadable => ?_
  · rw [Tree.isReadable_ofEntries]
    simp only [List.all_cons, List.all_nil, houtput.isReadable, hdirectives.isReadable,
      hdeclarations.isReadable, Bool.and_true]
  · rw [readLibrary, ofTree?_ofEntries _ _ hreadable]
    simp [onlyNames, libraryNames, houtput.read_eq, hdirectives.read_eq, hdeclarations.read_eq,
      Library.sorted]

/-! ### What can be written -/

section Writable

variable {α β : Type}

theorem bind_pure_eq_none_iff {o : Option α} {f : α → β} :
    (do let x ← o; return f x) = none ↔ o = none := by
  cases o with
  | none => simp
  | some x => simp

/-- If an item cannot be written for what is inside it, neither can a list for what is inside its
items. -/
theorem mapM_eq_none_iff {write : α → Option Tree} {parts : α → List β} {b : β}
    (h : ∀ item, write item = none ↔ b ∈ parts item) (items : List α) :
    items.mapM write = none ↔ b ∈ items.flatMap parts := by
  induction items with
  | nil => simp
  | cons item rest ih =>
    rw [List.flatMap_cons, List.mem_append, ← h, ← ih, List.mapM_cons]
    cases write item with
    | none => simp
    | some tree => cases rest.mapM write <;> simp

end Writable

theorem writeOptionalValue_eq_none_iff (value : Option Value) :
    writeOptionalValue value = none ↔ .null ∈ value.toList.flatMap Value.parts := by
  cases value with
  | none => simp [writeOptionalValue]
  | some value => simp [writeOptionalValue, writeValue_eq_none_iff]

theorem writeMember_eq_none_iff (member : Member) :
    writeMember member = none ↔ .null ∈ member.constants := by
  cases member with
  | property record =>
    rw [writeMember, bind_pure_eq_none_iff, Member.constants, writeOptionalValue_eq_none_iff]
  | getter record => simp [writeMember, Member.constants]
  | setter record => simp [writeMember, Member.constants]
  | constructor record => simp [writeMember, Member.constants]
  | method record => simp [writeMember, Member.constants]

theorem writeMembers_eq_none_iff (members : List Member) :
    writeMembers members = none ↔ .null ∈ members.flatMap Member.constants := by
  rw [writeMembers, Option.map_eq_none_iff, mapM_eq_none_iff writeMember_eq_none_iff]

theorem writeDeclaration_eq_none_iff (declaration : Declaration) :
    writeDeclaration declaration = none ↔ .null ∈ declaration.constants := by
  cases declaration with
  | classDecl record | enumDecl record | mixinDecl record | extensionDecl record =>
    rw [writeDeclaration, bind_pure_eq_none_iff, writeMembers_eq_none_iff]
    rfl
  | functionDecl record => simp [writeDeclaration, Declaration.constants, Declaration.members]
  | «variable» record =>
    rw [writeDeclaration, bind_pure_eq_none_iff, writeOptionalValue_eq_none_iff]
    rfl

/-- **A library is written unless there is a null inside one of its constants.** -/
theorem writeLibrary_eq_none_iff (library : Library) :
    writeLibrary library = none ↔ .null ∈ library.constants := by
  rw [writeLibrary, bind_pure_eq_none_iff, mapM_eq_none_iff writeDeclaration_eq_none_iff]
  rfl

/-! ### There and back -/

namespace Library

/-- **Writing and reading gives the library back.** It fails to be written only for nulls. From its
tree, or from any text that denotes the tree, it is read with its names in order, and that is the
same library exactly if all its doubles are numbers. -/
theorem readLibrary_of_writeLibrary {library : Library} (h : library.WellFormed) :
    (writeLibrary library = none ↔ .null ∈ library.constants) ∧
    ∀ tree, writeLibrary library = some tree →
      (∀ surplus, readLibrary surplus tree = some library.sorted) ∧
      (∀ text, Toml.parse? text = some tree → parse .toml text = .ok library.sorted) ∧
      library.reread? =
        some (if Toml.isShallow tree then .ok library.sorted else .error (.malformed .toml)) ∧
      ((library.sorted == library) = true ↔
        ∀ constant ∈ library.constants, constant.isNaN = false) := by
  refine ⟨writeLibrary_eq_none_iff library, fun tree hwrite => ?_⟩
  have hread (surplus : Bool) : readLibrary surplus tree = some library.sorted :=
    (reads_library surplus h hwrite).read_eq
  refine ⟨hread, fun text htext => ?_, ?_, ?_⟩
  · rw [parse, treeOf?, htext, Option.bind_some, hread]
  · rw [reread?, hwrite]
    cases hshallow : Toml.isShallow tree with
    | true => simp [hread, hshallow]
    | false => simp [hshallow]
  · rw [sorted_beq h, List.all_eq_true]
    simp

/-- A library whose labels and fields are out of order. -/
def outOfOrder : Library where
  output := { indent := some 4, partOf := some (.asset ⟨"shop", "lib/shop.dart"⟩) }
  directives := [.importLib { target := .uri "dart:core", modifiers := [.deferred] }]
  declarations :=
    [.classDecl {
      name := "Item"
      members :=
        [.property {
          name := "price"
          value := some (.custom "Money"
            [("units", .list [.int 3, .double (.ofMagnitude true 0)]), ("code", .text "EUR")]) },
         .constructor {
          initializers := [.superCall { named := ⟨[("size", "1"), ("count", "2")]⟩ }] }] },
     .enumDecl { name := "Level", constants := [{ name := "low", args := some [] }] }]

theorem readLibrary_of_writeLibrary_outOfOrder :
    outOfOrder.WellFormed ∧ ∃ tree, writeLibrary outOfOrder = some tree ∧
      readLibrary true tree = some outOfOrder.sorted ∧
      (outOfOrder.sorted == outOfOrder) = true := by
  have hlabels : outOfOrder.labels = [⟨[("size", "1"), ("count", "2")]⟩, {}] := rfl
  have hconstants : outOfOrder.constants =
      [.custom "Money"
        [("units", .list [.int 3, .double (.ofMagnitude true 0)]), ("code", .text "EUR")],
       .list [.int 3, .double (.ofMagnitude true 0)], .int 3, .double (.ofMagnitude true 0),
       .text "EUR"] := rfl
  have h : outOfOrder.WellFormed := by
    refine ⟨by simp [outOfOrder], ?_, ?_⟩
    · simp [hlabels, Labelled.BindsOnce]
    · simp [hconstants, Value.BindsOnce]
  have hsome : writeLibrary outOfOrder ≠ none := fun hnone => by
    simpa [hconstants] using (readLibrary_of_writeLibrary h).1.mp hnone
  obtain ⟨tree, htree⟩ := Option.ne_none_iff_exists'.mp hsome
  obtain ⟨hread, -, -, hsame⟩ := (readLibrary_of_writeLibrary h).2 tree htree
  have hnumber : (Double.ofMagnitude true 0).isNaN = false := by decide
  refine ⟨h, tree, htree, hread true, hsame.mpr ?_⟩
  simp [hconstants, Value.isNaN, hnumber]

end Library

end DartSource.Record
