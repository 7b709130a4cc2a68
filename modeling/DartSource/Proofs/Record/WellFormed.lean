import DartSource.Lowering.Library
import DartSource.Proofs.Record.Order

/-!
# What is read is well formed

Whatever a library is read from, it is well formed (`Library.wellFormed_of_parse`). A width is
checked, and where a table binds names of the author's choice, a name that comes again replaces what
it was bound to, so no name is left that is bound twice.

A record holds what its fields were read as, or the default of a field that is missing. So every
record inside a library was read from some tree, and the proof goes from constants and labels up to
the library, one lemma for each reader on the way.
-/

namespace DartSource.Record

/-! ### Constants -/

namespace Value

theorem mem_fieldsParts {part : Value} {fields : List (String × Value)} :
    part ∈ fieldsParts fields ↔ ∃ field ∈ fields, part ∈ field.2.parts := by
  induction fields with
  | nil => simp [fieldsParts]
  | cons field rest ih => simp [fieldsParts, ih]

/-- The fields that are kept are some of those that were given. -/
theorem bindsOnce_custom (type : String) {fields : List (String × Value)}
    (h : ∀ part ∈ fieldsParts fields, part.BindsOnce) :
    ∀ part ∈ (custom type (Assoc.ofList fields)).parts, part.BindsOnce := by
  rw [parts, List.forall_mem_cons]
  refine ⟨Assoc.nodup_names_ofList fields, fun part hpart => ?_⟩
  obtain ⟨field, hfield, hinside⟩ := mem_fieldsParts.mp hpart
  obtain ⟨front, behind, rfl, -⟩ := Assoc.exists_last_of_mem_ofList hfield
  exact h part (mem_fieldsParts.mpr ⟨field, List.mem_append_cons_self, hinside⟩)

end Value

mutual

theorem bindsOnce_of_readValue : ∀ {tree : Tree} {value : Value}, readValue tree = some value →
    ∀ part ∈ value.parts, part.BindsOnce
  | .null, _, h | .bool _, _, h | .int _, _, h | .double _, _, h | .text _, _, h => by
    rw [readValue, Option.some_inj] at h
    subst h
    simp [Value.parts, Value.BindsOnce]
  | .natural value, _, h => by
    rw [readValue] at h
    split at h
    · rw [← Option.some.inj h]
      simp [Value.parts, Value.BindsOnce]
    · rw [← Option.some.inj h]
      simp [Value.parts, Value.BindsOnce]
  | .list items, _, h => by
    rw [readValue, Option.map_eq_some_iff] at h
    obtain ⟨values, hvalues, rfl⟩ := h
    rw [Value.parts, List.forall_mem_cons]
    exact ⟨trivial, bindsOnce_of_readValues hvalues⟩
  | .table entries, _, h => by
    rw [readValue] at h
    simp only [Option.orElse_eq_orElse, Option.orElse_eq_or] at h
    -- an enum value, a custom value or a map
    rcases Option.or_eq_some_iff.mp h with henum | ⟨-, h⟩
    · obtain ⟨type, -, henum⟩ := Option.bind_eq_some_iff.mp henum
      obtain ⟨value, -, henum⟩ := Option.bind_eq_some_iff.mp henum
      rw [← Option.some.inj henum]
      simp [Value.parts, Value.BindsOnce]
    · rcases Option.or_eq_some_iff.mp h with hcustom | ⟨-, hmap⟩
      · obtain ⟨type, -, hcustom⟩ := Option.bind_eq_some_iff.mp hcustom
        obtain ⟨fields, hfields, hcustom⟩ := Option.bind_eq_some_iff.mp hcustom
        rw [← Option.some.inj hcustom]
        exact Value.bindsOnce_custom type (bindsOnce_of_readCustomFields hfields)
      · obtain ⟨pairs, hpairs, rfl⟩ := Option.map_eq_some_iff.mp hmap
        rw [Value.parts, List.forall_mem_cons]
        exact ⟨trivial, bindsOnce_of_readMapEntries hpairs⟩
  | .unreadable, _, h | .undefined, _, h => by
    rw [readValue] at h
    exact absurd h (Option.some_ne_none _).symm

theorem bindsOnce_of_readValues : ∀ {items : List Tree} {values : List Value},
    readValues items = some values → ∀ part ∈ Value.itemsParts values, part.BindsOnce
  | [], _, h => by
    rw [readValues, Option.some_inj] at h
    subst h
    exact List.forall_mem_nil _
  | item :: rest, _, h => by
    rw [readValues] at h
    obtain ⟨first, hfirst, h⟩ := Option.bind_eq_some_iff.mp h
    obtain ⟨more, hmore, h⟩ := Option.bind_eq_some_iff.mp h
    obtain rfl := Option.some.inj h
    rw [Value.itemsParts, List.forall_mem_append]
    exact ⟨bindsOnce_of_readValue hfirst, bindsOnce_of_readValues hmore⟩

theorem bindsOnce_of_readCustomFields : ∀ {entries : List (String × Tree)}
    {fields : List (String × Value)}, readCustomFields entries = some fields →
    ∀ part ∈ Value.fieldsParts fields, part.BindsOnce
  | [], _, h => by
    rw [readCustomFields, Option.some_inj] at h
    subst h
    exact List.forall_mem_nil _
  | (name, tree) :: rest, _, h => by
    rw [readCustomFields] at h
    split at h
    · split at h
      · exact absurd h (Option.some_ne_none _).symm
      · exact bindsOnce_of_readBindings h
    · exact bindsOnce_of_readCustomFields h

theorem bindsOnce_of_readBindings : ∀ {tree : Tree} {fields : List (String × Value)},
    readBindings tree = some fields → ∀ part ∈ Value.fieldsParts fields, part.BindsOnce
  | .table entries, _, h => by
    rw [readBindings] at h
    exact bindsOnce_of_readBound h
  | .null, _, h | .bool _, _, h | .int _, _, h | .natural _, _, h | .double _, _, h
  | .text _, _, h | .list _, _, h | .unreadable, _, h | .undefined, _, h => by
    simp [readBindings] at h

theorem bindsOnce_of_readBound : ∀ {entries : List (String × Tree)}
    {fields : List (String × Value)}, readBound entries = some fields →
    ∀ part ∈ Value.fieldsParts fields, part.BindsOnce
  | [], _, h => by
    rw [readBound, Option.some_inj] at h
    subst h
    exact List.forall_mem_nil _
  | (name, tree) :: rest, _, h => by
    rw [readBound] at h
    obtain ⟨first, hfirst, h⟩ := Option.bind_eq_some_iff.mp h
    obtain ⟨more, hmore, h⟩ := Option.bind_eq_some_iff.mp h
    obtain rfl := Option.some.inj h
    rw [Value.fieldsParts, List.forall_mem_append]
    exact ⟨bindsOnce_of_readValue hfirst, bindsOnce_of_readBound hmore⟩

theorem bindsOnce_of_readMapEntries : ∀ {entries : List (String × Tree)}
    {pairs : List (Value × Value)}, readMapEntries entries = some pairs →
    ∀ part ∈ Value.entriesParts pairs, part.BindsOnce
  | [], _, h => by simp [readMapEntries] at h
  | (name, tree) :: rest, _, h => by
    rw [readMapEntries] at h
    split at h
    · split at h
      · exact absurd h (Option.some_ne_none _).symm
      · exact bindsOnce_of_readPairs h
    · exact bindsOnce_of_readMapEntries h

theorem bindsOnce_of_readPairs : ∀ {tree : Tree} {pairs : List (Value × Value)},
    readPairs tree = some pairs → ∀ part ∈ Value.entriesParts pairs, part.BindsOnce
  | .list items, _, h => by
    rw [readPairs] at h
    exact bindsOnce_of_readPairItems h
  | .null, _, h | .bool _, _, h | .int _, _, h | .natural _, _, h | .double _, _, h
  | .text _, _, h | .table _, _, h | .unreadable, _, h | .undefined, _, h => by
    simp [readPairs] at h

theorem bindsOnce_of_readPairItems : ∀ {items : List Tree} {pairs : List (Value × Value)},
    readPairItems items = some pairs → ∀ part ∈ Value.entriesParts pairs, part.BindsOnce
  | [], _, h => by
    rw [readPairItems, Option.some_inj] at h
    subst h
    exact List.forall_mem_nil _
  | item :: rest, _, h => by
    rw [readPairItems] at h
    obtain ⟨⟨key, value⟩, hpair, h⟩ := Option.bind_eq_some_iff.mp h
    obtain ⟨more, hmore, h⟩ := Option.bind_eq_some_iff.mp h
    obtain rfl := Option.some.inj h
    rw [Value.entriesParts, List.forall_mem_append]
    exact ⟨bindsOnce_of_readPair hpair, bindsOnce_of_readPairItems hmore⟩

theorem bindsOnce_of_readPair : ∀ {tree : Tree} {pair : Value × Value},
    readPair tree = some pair → ∀ part ∈ pair.1.parts ++ pair.2.parts, part.BindsOnce
  | .list [first, second], _, h => by
    rw [readPair] at h
    obtain ⟨key, hkey, h⟩ := Option.bind_eq_some_iff.mp h
    obtain ⟨value, hvalue, h⟩ := Option.bind_eq_some_iff.mp h
    obtain rfl := Option.some.inj h
    rw [List.forall_mem_append]
    exact ⟨bindsOnce_of_readValue hkey, bindsOnce_of_readValue hvalue⟩
  | .table entries, _, h => by
    rw [readPair] at h
    obtain ⟨key, hkey, h⟩ := Option.bind_eq_some_iff.mp h
    obtain ⟨value, hvalue, h⟩ := Option.bind_eq_some_iff.mp h
    obtain rfl := Option.some.inj h
    rw [List.forall_mem_append]
    exact ⟨bindsOnce_of_readNamed hkey, bindsOnce_of_readNamed hvalue⟩
  | .list [], _, h | .list [_], _, h | .list (_ :: _ :: _ :: _), _, h
  | .null, _, h | .bool _, _, h | .int _, _, h | .natural _, _, h | .double _, _, h
  | .text _, _, h | .unreadable, _, h | .undefined, _, h => by
    simp [readPair] at h

theorem bindsOnce_of_readNamed {wanted : String} : ∀ {entries : List (String × Tree)}
    {value : Value}, readNamed wanted entries = some value →
    ∀ part ∈ value.parts, part.BindsOnce
  | [], _, h => by simp [readNamed] at h
  | (name, tree) :: rest, _, h => by
    rw [readNamed] at h
    split at h
    · split at h
      · exact absurd h (Option.some_ne_none _).symm
      · exact bindsOnce_of_readValue h
    · exact bindsOnce_of_readNamed h

end

/-! ### Fields -/

section Fields

variable {α : Type} {fields : Fields} {name : String} {read : Tree → Option α}

theorem exists_tree_of_required {x : α} (h : fields.required name read = some x) :
    ∃ tree, read tree = some x := by
  obtain ⟨slot, -, hslot⟩ := Option.bind_eq_some_iff.mp h
  cases slot with
  | none => exact absurd hslot (Option.some_ne_none x).symm
  | some tree => exact ⟨tree, hslot⟩

theorem exists_tree_of_optional {item : Option α} (h : fields.optional name read = some item) :
    ∀ x ∈ item, ∃ tree, read tree = some x := by
  obtain ⟨slot, -, hslot⟩ := Option.bind_eq_some_iff.mp h
  rintro x rfl
  split at hslot
  · simp at hslot
  · next tree _ => 
    obtain ⟨y, hy, hsome⟩ := Option.map_eq_some_iff.mp hslot
    exact ⟨tree, by rw [hy, hsome]⟩
  · simp at hslot

theorem exists_tree_of_withDefault {default x : α}
    (h : fields.withDefault name default read = some x) :
    x = default ∨ ∃ tree, read tree = some x := by
  obtain ⟨slot, -, hslot⟩ := Option.bind_eq_some_iff.mp h
  cases slot with
  | none => exact .inl (Option.some.inj hslot).symm
  | some tree => exact .inr ⟨tree, hslot⟩

theorem exists_tree_of_readList {tree : Tree} {items : List α}
    (h : readList read tree = some items) : ∀ x ∈ items, ∃ tree, read tree = some x := by
  cases tree with
  | list trees =>
    change trees.mapM read = some items at h
    induction trees generalizing items with
    | nil =>
      rw [← Option.some.inj h]
      exact List.forall_mem_nil _
    | cons tree rest ih =>
      rw [List.mapM_cons] at h
      obtain ⟨first, hfirst, h⟩ := Option.bind_eq_some_iff.mp h
      obtain ⟨more, hmore, h⟩ := Option.bind_eq_some_iff.mp h
      rw [← Option.some.inj h, List.forall_mem_cons]
      exact ⟨⟨tree, hfirst⟩, ih hmore⟩
  | _ => exact absurd h (Option.some_ne_none items).symm

/-- The items of a list that may be missing. -/
theorem exists_tree_of_mem {items : List α}
    (h : fields.withDefault name [] (readList read) = some items) :
    ∀ x ∈ items, ∃ tree, read tree = some x := by
  rcases exists_tree_of_withDefault h with rfl | ⟨tree, htree⟩
  · exact List.forall_mem_nil _
  · exact exists_tree_of_readList htree

end Fields

/-! ### Records -/

theorem bindsOnce_of_readLabelled {tree : Tree} {labelled : Labelled}
    (h : readLabelled tree = some labelled) : labelled.BindsOnce := by
  cases tree with
  | table entries =>
    obtain ⟨texts, -, htexts⟩ := Option.bind_eq_some_iff.mp h
    rw [← Option.some.inj htexts]
    exact Assoc.nodup_names_ofList texts
  | _ => exact absurd h (Option.some_ne_none labelled).symm

/-- Labels that are left out are none. -/
theorem bindsOnce_of_withDefault {fields : Fields} {labelled : Labelled}
    (h : fields.withDefault "named" {} readLabelled = some labelled) : labelled.BindsOnce := by
  rcases exists_tree_of_withDefault h with rfl | ⟨tree, htree⟩
  · exact List.nodup_nil
  · exact bindsOnce_of_readLabelled htree

theorem bindsOnce_of_optional {fields : Fields} {value : Option Value}
    (h : fields.optional "value" readValue = some value) :
    ∀ part ∈ value.toList.flatMap Value.parts, part.BindsOnce := by
  cases value with
  | none => exact List.forall_mem_nil _
  | some value =>
    obtain ⟨tree, htree⟩ := exists_tree_of_optional h value rfl
    rw [Option.toList_some, List.flatMap_singleton]
    exact bindsOnce_of_readValue htree

theorem labels_of_readInitializer {tree : Tree} {entry : Initializer}
    (h : readInitializer tree = some entry) : ∀ labelled ∈ entry.labels, labelled.BindsOnce := by
  obtain ⟨⟨kind, fields⟩, -, h⟩ := Option.bind_eq_some_iff.mp h
  dsimp only at h
  split at h
  · obtain ⟨condition, -, h⟩ := Option.bind_eq_some_iff.mp h
    obtain ⟨message, -, h⟩ := Option.bind_eq_some_iff.mp h
    rw [← Option.some.inj h]
    exact List.forall_mem_nil _
  split at h
  · obtain ⟨name, -, h⟩ := Option.bind_eq_some_iff.mp h
    obtain ⟨value, -, h⟩ := Option.bind_eq_some_iff.mp h
    rw [← Option.some.inj h]
    exact List.forall_mem_nil _
  · obtain ⟨call, hcall, h⟩ := Option.bind_eq_some_iff.mp h
    obtain ⟨_, -, hcall⟩ := Option.bind_eq_some_iff.mp hcall
    obtain ⟨_, -, hcall⟩ := Option.bind_eq_some_iff.mp hcall
    obtain ⟨named, hnamed, hcall⟩ := Option.bind_eq_some_iff.mp hcall
    have honce : call.named.BindsOnce := by
      rw [← Option.some.inj hcall]
      exact bindsOnce_of_withDefault hnamed
    rw [← Option.some.inj h]
    split
    · exact List.forall_mem_singleton.mpr honce
    · exact List.forall_mem_singleton.mpr honce

theorem labels_of_readConstructor {fields : Fields} {record : Constructor}
    (h : readConstructor fields = some record) :
    ∀ labelled ∈ record.initializers.flatMap Initializer.labels, labelled.BindsOnce := by
  unfold readConstructor at h
  simp only [Option.bind_eq_bind, Option.bind_eq_some_iff] at h
  obtain ⟨_, -, _, -, _, -, _, -, _, -, _, -, initializers, hinitializers, _, -, h⟩ := h
  rw [← Option.some.inj h, List.forall_mem_flatMap]
  intro entry hentry
  obtain ⟨tree, htree⟩ := exists_tree_of_mem hinitializers entry hentry
  exact labels_of_readInitializer htree

theorem namesOnce_nil : NamesOnce [] [] :=
  ⟨List.forall_mem_nil _, List.forall_mem_nil _⟩

theorem namesOnce_of_readMember {tree : Tree} {member : Member}
    (h : readMember tree = some member) : NamesOnce member.labels member.constants := by
  obtain ⟨fields, -, h⟩ := Option.bind_eq_some_iff.mp h
  obtain ⟨kind, -, h⟩ := Option.bind_eq_some_iff.mp h
  split at h
  · obtain ⟨record, hrecord, rfl⟩ := Option.map_eq_some_iff.mp h
    unfold readProperty at hrecord
    simp only [Option.bind_eq_bind, Option.bind_eq_some_iff] at hrecord
    obtain ⟨_, -, _, -, _, -, _, -, _, -, value, hvalue, hrecord⟩ := hrecord
    obtain rfl := Option.some.inj hrecord
    exact ⟨List.forall_mem_nil _, bindsOnce_of_optional hvalue⟩
  split at h
  · obtain ⟨record, -, rfl⟩ := Option.map_eq_some_iff.mp h
    exact namesOnce_nil
  split at h
  · obtain ⟨record, -, rfl⟩ := Option.map_eq_some_iff.mp h
    exact namesOnce_nil
  split at h
  · obtain ⟨record, hrecord, rfl⟩ := Option.map_eq_some_iff.mp h
    exact ⟨labels_of_readConstructor hrecord, List.forall_mem_nil _⟩
  · obtain ⟨record, -, rfl⟩ := Option.map_eq_some_iff.mp h
    exact namesOnce_nil

theorem namesOnce_of_readMembers {fields : Fields} {members : List Member}
    (h : readMembers fields = some members) :
    NamesOnce (members.flatMap Member.labels) (members.flatMap Member.constants) := by
  refine namesOnce_flatMap_iff.mpr fun member hmember => ?_
  obtain ⟨tree, htree⟩ := exists_tree_of_mem h member hmember
  exact namesOnce_of_readMember htree

theorem bindsOnce_of_readEnumConstant {tree : Tree} {record : EnumConstant}
    (h : readEnumConstant tree = some record) : record.named.BindsOnce := by
  unfold readEnumConstant at h
  simp only [Option.bind_eq_bind, Option.bind_eq_some_iff] at h
  obtain ⟨_, -, _, -, _, -, _, -, _, -, named, hnamed, h⟩ := h
  rw [← Option.some.inj h]
  exact bindsOnce_of_withDefault hnamed

theorem namesOnce_of_readDeclaration {tree : Tree} {declaration : Declaration}
    (h : readDeclaration tree = some declaration) :
    NamesOnce declaration.labels declaration.constants := by
  have hreadable : tree.isReadable = true := by
    by_contra hnot
    simp [readDeclaration, hnot] at h
  rw [readDeclaration, if_pos hreadable] at h
  obtain ⟨fields, -, h⟩ := Option.bind_eq_some_iff.mp h
  obtain ⟨kind, -, h⟩ := Option.bind_eq_some_iff.mp h
  split at h
  · obtain ⟨record, hrecord, rfl⟩ := Option.map_eq_some_iff.mp h
    unfold readClass at hrecord
    simp only [Option.bind_eq_bind, Option.bind_eq_some_iff] at hrecord
    obtain ⟨_, -, _, -, _, -, _, -, _, -, _, -, _, -, members, hmembers, hrecord⟩ := hrecord
    obtain rfl := Option.some.inj hrecord
    exact namesOnce_of_readMembers hmembers
  split at h
  · obtain ⟨record, hrecord, rfl⟩ := Option.map_eq_some_iff.mp h
    unfold readEnum at hrecord
    simp only [Option.bind_eq_bind, Option.bind_eq_some_iff] at hrecord
    obtain ⟨_, -, _, -, _, -, _, -, _, -, constants, hconstants, members, hmembers, hrecord⟩ :=
      hrecord
    obtain rfl := Option.some.inj hrecord
    obtain ⟨hlabels, honce⟩ := namesOnce_of_readMembers hmembers
    refine ⟨List.forall_mem_append.mpr ⟨?_, hlabels⟩, honce⟩
    obtain ⟨inner, hinner⟩ := exists_tree_of_required hconstants
    rw [List.forall_mem_map]
    intro constant hconstant
    obtain ⟨tree, htree⟩ := exists_tree_of_readList hinner constant hconstant
    exact bindsOnce_of_readEnumConstant htree
  split at h
  · obtain ⟨record, hrecord, rfl⟩ := Option.map_eq_some_iff.mp h
    unfold readMixin at hrecord
    simp only [Option.bind_eq_bind, Option.bind_eq_some_iff] at hrecord
    obtain ⟨_, -, _, -, _, -, _, -, _, -, _, -, members, hmembers, hrecord⟩ := hrecord
    obtain rfl := Option.some.inj hrecord
    exact namesOnce_of_readMembers hmembers
  split at h
  · obtain ⟨record, hrecord, rfl⟩ := Option.map_eq_some_iff.mp h
    unfold readExtension at hrecord
    simp only [Option.bind_eq_bind, Option.bind_eq_some_iff] at hrecord
    obtain ⟨_, -, _, -, _, -, _, -, members, hmembers, hrecord⟩ := hrecord
    obtain rfl := Option.some.inj hrecord
    exact namesOnce_of_readMembers hmembers
  split at h
  · obtain ⟨record, -, rfl⟩ := Option.map_eq_some_iff.mp h
    exact namesOnce_nil
  split at h
  · obtain ⟨record, hrecord, rfl⟩ := Option.map_eq_some_iff.mp h
    unfold readVariable at hrecord
    simp only [Option.bind_eq_bind, Option.bind_eq_some_iff] at hrecord
    obtain ⟨_, -, _, -, _, -, _, -, _, -, value, hvalue, hrecord⟩ := hrecord
    obtain rfl := Option.some.inj hrecord
    exact ⟨List.forall_mem_nil _, bindsOnce_of_optional hvalue⟩
  · exact absurd h (Option.some_ne_none declaration).symm

/-! ### Descriptions -/

theorem width_of_readOutput {surplus : Bool} {tree : Tree} {output : Output}
    (h : readOutput surplus tree = some output) : ∀ width ∈ output.indent, width ≤ 255 := by
  obtain ⟨fields, -, h⟩ := Option.bind_eq_some_iff.mp h
  split at h
  · exact absurd h (Option.some_ne_none output).symm
  · simp only [Option.bind_eq_bind, Option.bind_eq_some_iff] at h
    obtain ⟨_, -, indent, hindent, _, -, _, -, h⟩ := h
    obtain rfl := Option.some.inj h
    intro width hwidth
    obtain ⟨tree, htree⟩ := exists_tree_of_optional hindent width hwidth
    obtain ⟨value, -, hvalue⟩ := Option.bind_eq_some_iff.mp htree
    split at hvalue
    · next hrange =>
      rw [← Option.some.inj hvalue]
      omega
    · exact absurd hvalue (Option.some_ne_none width).symm

/-- **A library that is read is well formed.** -/
theorem wellFormed_of_readLibrary {surplus : Bool} {tree : Tree} {library : Library}
    (h : readLibrary surplus tree = some library) : library.WellFormed := by
  obtain ⟨fields, -, h⟩ := Option.bind_eq_some_iff.mp h
  split at h
  · exact absurd h (Option.some_ne_none library).symm
  · simp only [Option.bind_eq_bind, Option.bind_eq_some_iff] at h
    obtain ⟨output, houtput, directives, -, declarations, hdeclarations, h⟩ := h
    obtain rfl := Option.some.inj h
    refine ⟨?_, namesOnce_flatMap_iff.mpr fun declaration hmem => ?_⟩
    · rcases exists_tree_of_withDefault houtput with rfl | ⟨inner, hinner⟩
      · exact fun width hwidth => absurd hwidth (Option.not_mem_none width)
      · exact width_of_readOutput hinner
    · obtain ⟨inner, hinner⟩ := exists_tree_of_mem hdeclarations declaration hmem
      exact namesOnce_of_readDeclaration hinner

/-- **Every library that a text describes is well formed.** -/
theorem Library.wellFormed_of_parse {format : Format} {text : String} {library : Library}
    (h : parse format text = .ok library) : library.WellFormed := by
  unfold parse at h
  split at h
  · next hread =>
    obtain ⟨tree, -, htree⟩ := Option.bind_eq_some_iff.mp hread
    obtain rfl := Except.ok.inj h
    exact wellFormed_of_readLibrary htree
  · exact absurd h (by simp)

end DartSource.Record
