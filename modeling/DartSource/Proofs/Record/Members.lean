import DartSource.Proofs.Record.Constants

/-!
# Members that are written and read

Signatures and members, in the order in which they contain each other. A record without names of
the author's choice is read as it was; a constructor comes back with its labels in order, and a
field with the names inside its constant in order (`reads_member`).

Every proof has the same two halves. The row of fields that is written can be kept, because all its
trees can, and each lookup along the row gives the field that was written.
-/

namespace DartSource.Record

open Fields

/-! ### Fields that many records have -/

-- `simp` opens these fields on both sides, so that a record's own proof names only the record
attribute [simp] metaFields bodyField typeParamsField paramsField readMeta readTexts readModifiers
  readTypeParams readParams readMembers

@[simp] theorem readOptional_text (text : Option String) :
    readOptional readText (text.map .text) = some text :=
  Reads.optional_self Reads.text text

@[simp] theorem readList_texts (texts : List String) :
    readList readText (.list (texts.map .text)) = some texts :=
  (reads_texts texts).read_eq

@[simp] theorem all_isReadable_text (texts : List String) :
    texts.all (Tree.isReadable ∘ Tree.text) = true := by
  simp

theorem Modifier.ofText?_text (modifier : Modifier) : ofText? modifier.text = some modifier := by
  cases modifier <;> rfl

theorem reads_modifier (modifier : Modifier) :
    Reads readModifier (.text modifier.text) modifier :=
  ⟨Tree.isReadable_text _, by simp, Modifier.ofText?_text modifier⟩

theorem reads_modifiers (modifiers : List Modifier) :
    Reads (readList readModifier) (modifiersField modifiers).2 modifiers := by
  unfold modifiersField textsField
  rw [List.map_map]
  exact Reads.list_self reads_modifier modifiers

@[simp] theorem fst_modifiersField (modifiers : List Modifier) :
    (modifiersField modifiers).1 = "modifiers" :=
  rfl

@[simp] theorem isReadable_modifiersField (modifiers : List Modifier) :
    (modifiersField modifiers).2.isReadable = true :=
  (reads_modifiers modifiers).isReadable

@[simp] theorem readList_modifiersField (modifiers : List Modifier) :
    readList readModifier (modifiersField modifiers).2 = some modifiers :=
  (reads_modifiers modifiers).read_eq

@[simp] theorem isReadable_writeBody (body : Body) : (writeBody body).isReadable = true := by
  cases body <;> simp [writeBody]

@[simp] theorem readOptional_body (body : Option Body) :
    readOptional readBody (body.map writeBody) = some body := by
  refine Reads.optional_self (fun body => ⟨isReadable_writeBody body, ?_, ?_⟩) body
  · cases body <;> simp [writeBody]
  · cases body <;> rfl

/-! ### Parameters -/

@[simp] theorem isReadable_writeTypeParam (param : TypeParam) :
    (writeTypeParam param).isReadable = true := by
  simp [writeTypeParam]

theorem reads_typeParam (param : TypeParam) :
    Reads readTypeParam (writeTypeParam param) param := by
  refine Reads.ofEntries (isReadable_writeTypeParam param) fun hreadable => ?_
  rw [readTypeParam, ofTree?_ofEntries _ _ hreadable]
  simp

@[simp] theorem readList_typeParams (params : List TypeParam) :
    readList readTypeParam (.list (params.map writeTypeParam)) = some params :=
  (Reads.list_self reads_typeParam params).read_eq

@[simp] theorem isReadable_writeParam (param : Param) : (writeParam param).isReadable = true := by
  simp [writeParam]

theorem reads_param (param : Param) : Reads readParam (writeParam param) param := by
  refine Reads.ofEntries (isReadable_writeParam param) fun hreadable => ?_
  rw [readParam, ofTree?_ofEntries _ _ hreadable]
  simp

@[simp] theorem readList_params (params : List Param) :
    readList readParam (.list (params.map writeParam)) = some params :=
  (Reads.list_self reads_param params).read_eq

/-! ### Callables -/

@[simp] theorem isReadable_writeCallable (kind : String) (record : Callable) :
    (writeCallable kind record).isReadable = true := by
  simp [writeCallable, Option.all_map]

/-- The table of a callable has its kind, and otherwise reads as the callable. -/
theorem exists_fields_writeCallable (kind : String) (record : Callable) :
    ∃ fields, writeCallable kind record = .table fields ∧
      (∀ read : Tree → Option String, Fields.required fields "kind" read = read (.text kind)) ∧
      readCallable fields = some record := by
  refine ⟨_, rfl, fun read => ?_, ?_⟩
  · simp
  · simp [readCallable]

/-! ### Initializers -/

theorem mapM_readText (entries : List (String × String)) :
    (entries.map (Prod.map id Tree.text)).mapM
      (fun (name, tree) => (readText tree).map (name, ·)) = some entries := by
  induction entries with
  | nil => rfl
  | cons entry rest ih =>
    rw [List.map_cons, List.mapM_cons, ih]
    rfl

@[simp] theorem isReadable_writeLabelled (labelled : Labelled) :
    (writeLabelled labelled).isReadable = true := by
  simp [writeLabelled]

theorem reads_labelled {labelled : Labelled} (h : labelled.BindsOnce) :
    Reads readLabelled (writeLabelled labelled) labelled.sorted := by
  have hsort : Tree.sortEntries (labelled.entries.map (Prod.map id .text)) =
      (Assoc.sort labelled.entries).map (Prod.map id .text) :=
    Assoc.sort_map Tree.text labelled.entries
  refine Reads.ofEntries (isReadable_writeLabelled labelled) fun _ => ?_
  change readLabelled (.table (Tree.sortEntries (labelled.entries.map (Prod.map id .text)))) = _
  rw [hsort, readLabelled, mapM_readText, Option.bind_eq_bind, Option.bind_some,
    Assoc.ofList_of_nodup (Assoc.nodup_names_sort h)]
  rfl

@[simp] theorem isReadable_writeInitializer (entry : Initializer) :
    (writeInitializer entry).isReadable = true := by
  cases entry <;> simp [writeInitializer, writeCall]

/-- The table of a call has its kind, and otherwise reads as the call. -/
theorem exists_fields_writeCall (kind : String) {call : Call} (h : call.named.BindsOnce) :
    ∃ fields, writeCall kind call = .table fields ∧
      (∀ read : Tree → Option String, Fields.required fields "kind" read = read (.text kind)) ∧
      readCall fields = some call.sorted := by
  refine ⟨_, rfl, fun read => ?_, ?_⟩
  · simp
  · simp [readCall, (reads_labelled h).read_eq, Call.sorted]

theorem reads_initializer {entry : Initializer}
    (h : ∀ labelled ∈ entry.labels, labelled.BindsOnce) :
    Reads readInitializer (writeInitializer entry) entry.sorted := by
  have hreadable := isReadable_writeInitializer entry
  cases entry with
  | assert condition message =>
    refine Reads.ofEntries hreadable fun _ => ?_
    simp [readInitializer, Tree.ofEntries, initializerParts, readKind, initializerKinds,
      Initializer.sorted]
  | field name value =>
    refine Reads.ofEntries hreadable fun _ => ?_
    simp [readInitializer, Tree.ofEntries, initializerParts, readKind, initializerKinds,
      Initializer.sorted]
  | superCall call =>
    obtain ⟨fields, hfields, hkind, hread⟩ :=
      exists_fields_writeCall "super" (h call.named List.mem_cons_self)
    refine ⟨hreadable, by simp [writeInitializer, hfields], ?_⟩
    simp [readInitializer, writeInitializer, hfields, initializerParts, hkind, readKind,
      initializerKinds, hread, Initializer.sorted]
  | redirect call =>
    obtain ⟨fields, hfields, hkind, hread⟩ :=
      exists_fields_writeCall "redirect" (h call.named List.mem_cons_self)
    refine ⟨hreadable, by simp [writeInitializer, hfields], ?_⟩
    simp [readInitializer, writeInitializer, hfields, initializerParts, hkind, readKind,
      initializerKinds, hread, Initializer.sorted]

theorem readList_initializers {entries : List Initializer}
    (h : ∀ labelled ∈ entries.flatMap Initializer.labels, labelled.BindsOnce) :
    readList readInitializer (.list (entries.map writeInitializer)) =
      some (entries.map Initializer.sorted) := by
  refine (Reads.list fun entry hentry => reads_initializer fun labelled hlabelled => ?_).read_eq
  exact h labelled (List.mem_flatMap_of_mem hentry hlabelled)

/-! ### Members -/

/-- A record with a constant that may be absent is written with a field that may be absent. -/
theorem exists_slot {value : Option Value} {table : List (String × Tree) → Tree} {tree : Tree}
    (hwrite : (do let entries ← writeOptionalValue value; return table entries) = some tree)
    (honce : ∀ part ∈ value.toList.flatMap Value.parts, part.BindsOnce) :
    ∃ slot, tree = table (optionalField "value" slot) ∧ slot.all Tree.isReadable = true ∧
      readOptional readValue slot = some (value.map Value.sorted) := by
  obtain ⟨entries, hentries, htree⟩ := Option.bind_eq_some_iff.mp hwrite
  obtain rfl := Option.some.inj htree
  cases value with
  | none =>
    obtain rfl := Option.some.inj hentries
    exact ⟨none, rfl, rfl, rfl⟩
  | some value =>
    obtain ⟨inner, hinner, rfl⟩ := Option.map_eq_some_iff.mp hentries
    rw [Option.toList_some, List.flatMap_singleton] at honce
    have hreads := reads_value hinner honce
    refine ⟨some inner, rfl, hreads.isReadable, ?_⟩
    -- a constant that is written is not null, which an optional field would take for nothing
    rw [readOptional_of_ne_null hreads.ne_null, hreads.read_eq]
    rfl

theorem reads_member {member : Member} {tree : Tree} (hwrite : writeMember member = some tree)
    (honce : NamesOnce member.labels member.constants) :
    Reads readMember tree member.sorted := by
  cases member with
  | property record =>
    rw [writeMember] at hwrite
    obtain ⟨slot, rfl, hreadable, hslot⟩ := exists_slot hwrite honce.constants
    refine Reads.ofEntries ?_ fun _ => ?_
    · simpa using hreadable
    · simp [readMember, readKind, memberKinds, readProperty, hslot, Member.sorted, Property.sorted]
  | getter record =>
    obtain rfl := Option.some.inj hwrite
    refine Reads.ofEntries ?_ fun _ => ?_
    · simp [Option.all_map]
    · simp [readMember, readKind, memberKinds, readGetter, Member.sorted]
  | setter record =>
    obtain rfl := Option.some.inj hwrite
    have hparam := (reads_param record.param).read_eq
    refine Reads.ofEntries ?_ fun _ => ?_
    · simp [Option.all_map]
    · simp [readMember, readKind, memberKinds, readSetter, hparam, Member.sorted]
  | constructor record =>
    obtain rfl := Option.some.inj hwrite
    have hinitializers := readList_initializers honce.labels
    refine Reads.ofEntries ?_ fun _ => ?_
    · simp [Option.all_map]
    · simp [readMember, readKind, memberKinds, readConstructor, hinitializers, Member.sorted,
        Constructor.sorted]
  | method record =>
    obtain rfl := Option.some.inj hwrite
    obtain ⟨fields, hfields, hkind, hread⟩ := exists_fields_writeCallable "method" record
    refine ⟨isReadable_writeCallable _ _, by simp [hfields], ?_⟩
    simp [readMember, hfields, hkind, readKind, memberKinds, hread, Member.sorted]

/-- A record with members is written with a field from which they are read. -/
theorem exists_members {members : List Member} {table : String × Tree → Tree} {tree : Tree}
    (hwrite : (do let entry ← writeMembers members; return table entry) = some tree)
    (honce : NamesOnce (members.flatMap Member.labels) (members.flatMap Member.constants)) :
    ∃ inner, tree = table ("members", inner) ∧
      Reads (readList readMember) inner (members.map Member.sorted) := by
  obtain ⟨entry, hentry, htree⟩ := Option.bind_eq_some_iff.mp hwrite
  obtain rfl := Option.some.inj htree
  obtain ⟨trees, htrees, rfl⟩ := Option.map_eq_some_iff.mp hentry
  refine ⟨.list trees, rfl, Reads.of_mapM htrees fun member hmember tree htree => ?_⟩
  exact reads_member htree (namesOnce_flatMap_iff.mp honce member hmember)

end DartSource.Record
