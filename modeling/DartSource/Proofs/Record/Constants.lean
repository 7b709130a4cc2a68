import DartSource.Proofs.Record.Fields
import DartSource.Proofs.Record.Order

/-!
# Constants that are written and read

A constant is written unless it is null or has a null inside (`writeValue_eq_none_iff`), and what is
written is read as the constant with its fields in order (`reads_value`).

A table is read as an enum value, a custom value or a map, whichever it can be first. The names in
the tables of the three tell them apart: a custom value has no `enum`, and a map has neither that
nor `custom`. The fields of a custom value are written in order of their names and read in that
order. For this they are seen as rows of a name, a tree and the constant that the tree is read as,
because sorting the rows sorts both of its views (`readBound_sortEntries`).
-/

namespace DartSource.Record

/-! ### Looking up constants -/

/-- A search that stops at the first entry of a name, and refuses it if the name comes again, is a
lookup. -/
theorem Fields.eq_bind_find? {α : Type} (search : Fields → Option α) {name : String}
    {take : Option Tree → Option α} (hnil : search [] = take none)
    (hcons : ∀ entry rest, search (entry :: rest) =
      if entry.1 = name then
        if rest.any (fun field => field.1 == entry.1) then none else take (some entry.2)
      else search rest)
    (entries : Fields) : search entries = (entries.find? name).bind take := by
  induction entries with
  | nil => exact hnil
  | cons entry rest ih =>
    rw [hcons, find?_eq_sole, List.filter_cons]
    by_cases hname : entry.1 = name
    · rw [if_pos hname, if_pos (beq_iff_eq.mpr hname), hname]
      cases hrest : rest.filter fun field => field.1 == name with
      | nil =>
        have hnone : ¬(rest.any fun field => field.1 == name) = true := fun hany => by
          obtain ⟨field, hmem, hfield⟩ := List.any_eq_true.mp hany
          exact List.filter_eq_nil_iff.mp hrest field hmem hfield
        rw [if_neg hnone]
        rfl
      | cons field more =>
        have hmem := List.mem_filter.mp (hrest ▸ List.mem_cons_self : field ∈ rest.filter _)
        rw [if_pos (List.any_eq_true.mpr ⟨field, hmem⟩)]
        rfl
    · rw [if_neg hname, if_neg fun h => hname (beq_iff_eq.mp h), ih, find?_eq_sole]

theorem readNamed_eq (wanted : String) (entries : Fields) :
    readNamed wanted entries = entries.required wanted readValue := by
  rw [Fields.required_eq]
  refine Fields.eq_bind_find? (readNamed wanted) ?_ (fun entry rest => ?_) entries
  · rw [readNamed, Option.bind_none]
  · rw [readNamed, Option.bind_some]

theorem readMapEntries_eq (entries : Fields) :
    readMapEntries entries = entries.required "map" readPairs := by
  rw [Fields.required_eq]
  refine Fields.eq_bind_find? readMapEntries ?_ (fun entry rest => ?_) entries
  · rw [readMapEntries, Option.bind_none]
  · rw [readMapEntries, Option.bind_some]

theorem readCustomFields_eq (entries : Fields) :
    readCustomFields entries = entries.withDefault "fields" [] readBindings := by
  rw [Fields.withDefault_eq]
  refine Fields.eq_bind_find? readCustomFields ?_ (fun entry rest => ?_) entries
  · rw [readCustomFields, Fields.readDefault]
  · rw [readCustomFields, Fields.readDefault]

/-! ### Fields in order -/

/-- Rows of a name, a tree and what the tree is read as. -/
theorem readBound_rows {rows : List (String × Tree × Value)}
    (h : ∀ row ∈ rows, readValue row.2.1 = some row.2.2) :
    readBound (rows.map (Prod.map id Prod.fst)) = some (rows.map (Prod.map id Prod.snd)) := by
  induction rows with
  | nil => rw [List.map_nil, readBound]; rfl
  | cons row rest ih =>
    rw [List.forall_mem_cons] at h
    rw [List.map_cons, List.map_cons]
    simp only [Prod.map, readBound, h.1, ih h.2]
    rfl

theorem readBound_sortEntries {rows : List (String × Tree × Value)}
    (h : ∀ row ∈ rows, readValue row.2.1 = some row.2.2) :
    readBound (Tree.sortEntries (rows.map (Prod.map id Prod.fst))) =
      some (Assoc.sort (rows.map (Prod.map id Prod.snd))) := by
  change readBound (Assoc.sort _) = _
  rw [Assoc.sort_map, Assoc.sort_map]
  exact readBound_rows fun row hrow => h row ((Assoc.sort_perm rows).mem_iff.mp hrow)

/-! ### Reading back -/

theorem readValue_enum (type value : String) :
    readValue (.ofEntries [textField "enum" type, textField "value" value]) =
      some (.enumValue type value) := by
  rw [Tree.ofEntries, readValue]
  simp [readEnumValue]

theorem readValue_custom (type : String) {fields : List (String × Tree)}
    {bound : List (String × Value)} (h : readBound (Tree.sortEntries fields) = some bound) :
    readValue (.ofEntries [textField "custom" type, ("fields", .ofEntries fields)]) =
      some (.custom type (Assoc.ofList bound)) := by
  rw [Tree.ofEntries, readValue]
  simp [readEnumValue, readCustomFields_eq, Tree.ofEntries, readBindings, h]

theorem readValue_map (items : List Tree) :
    readValue (.ofEntries [("map", .list items)]) = (readPairItems items).map .map := by
  rw [Tree.ofEntries, readValue]
  simp [readEnumValue, readMapEntries_eq, readPairs]

theorem readPair_entry (key value : Tree) :
    readPair (.ofEntries [("key", key), ("value", value)]) = do
      let key ← readValue key
      let value ← readValue value
      return (key, value) := by
  rw [Tree.ofEntries, readPair]
  simp [readNamed_eq]

mutual

/-- **What is written is read as the constant with its fields in order.** -/
theorem reads_value : ∀ {value : Value} {tree : Tree}, writeValue value = some tree →
    (∀ part ∈ value.parts, part.BindsOnce) → Reads readValue tree value.sorted
  | .null, _, hwrite, _ => by simp [writeValue] at hwrite
  | .bool _, _, hwrite, _ | .int _, _, hwrite, _ | .double _, _, hwrite, _
  | .text _, _, hwrite, _ => by
    rw [writeValue, Option.some_inj] at hwrite
    subst hwrite
    exact ⟨rfl, by simp, rfl⟩
  | .list items, _, hwrite, honce => by
    rw [writeValue, Option.map_eq_some_iff] at hwrite
    obtain ⟨trees, htrees, rfl⟩ := hwrite
    rw [Value.parts, List.forall_mem_cons] at honce
    obtain ⟨hreadable, hread⟩ := reads_items htrees honce.2
    refine ⟨by rw [Tree.isReadable_list, hreadable], by simp, ?_⟩
    rw [readValue, hread, Value.sorted, Option.map_some]
  | .enumValue type value, _, hwrite, _ => by
    rw [writeValue, Option.some_inj] at hwrite
    subst hwrite
    exact Reads.ofEntries (by simp) fun _ => readValue_enum type value
  | .custom type fields, _, hwrite, honce => by
    rw [writeValue] at hwrite
    obtain ⟨trees, htrees, htree⟩ := Option.bind_eq_some_iff.mp hwrite
    obtain rfl := Option.some.inj htree
    rw [Value.parts, List.forall_mem_cons] at honce
    obtain ⟨rows, rfl, hsorted, hrows⟩ := exists_rows htrees honce.2
    have hnames : ((Value.sortedFields fields).map Prod.fst).Nodup := by
      rw [Value.names_sortedFields]
      exact honce.1
    refine Reads.ofEntries ?_ fun _ => ?_
    · simp only [Tree.isReadable_ofEntries, textField, List.all_cons, List.all_nil, List.all_map,
        Tree.isReadable_text, Bool.true_and, Bool.and_true, List.all_eq_true]
      exact fun row hrow => (hrows row hrow).isReadable
    · -- the rows are sorted by name, and with them the trees and what they are read as
      have hbound := readBound_sortEntries fun row hrow => (hrows row hrow).read_eq
      rw [readValue_custom type hbound, ← hsorted, Value.sorted,
        Assoc.ofList_of_nodup (Assoc.nodup_names_sort hnames)]
  | .map entries, _, hwrite, honce => by
    rw [writeValue] at hwrite
    obtain ⟨trees, htrees, htree⟩ := Option.bind_eq_some_iff.mp hwrite
    obtain rfl := Option.some.inj htree
    rw [Value.parts, List.forall_mem_cons] at honce
    obtain ⟨hreadable, hread⟩ := reads_entries htrees honce.2
    refine Reads.ofEntries (by simp [hreadable]) fun _ => ?_
    rw [readValue_map, hread, Value.sorted, Option.map_some]

theorem reads_items : ∀ {items : List Value} {trees : List Tree}, writeValues items = some trees →
    (∀ part ∈ Value.itemsParts items, part.BindsOnce) →
    trees.all Tree.isReadable = true ∧ readValues trees = some (Value.sortedItems items)
  | [], _, hwrite, _ => by
    rw [writeValues, Option.some_inj] at hwrite
    subst hwrite
    exact ⟨rfl, rfl⟩
  | item :: rest, _, hwrite, honce => by
    rw [writeValues] at hwrite
    obtain ⟨first, hfirst, hwrite⟩ := Option.bind_eq_some_iff.mp hwrite
    obtain ⟨more, hmore, htrees⟩ := Option.bind_eq_some_iff.mp hwrite
    obtain rfl := Option.some.inj htrees
    rw [Value.itemsParts, List.forall_mem_append] at honce
    have hitem := reads_value hfirst honce.1
    obtain ⟨hreadable, hread⟩ := reads_items hmore honce.2
    refine ⟨by rw [List.all_cons, hitem.isReadable, hreadable, Bool.and_true], ?_⟩
    rw [readValues, hitem.read_eq, hread, Value.sortedItems]
    rfl

/-- Every field with its tree and what the tree is read as. -/
theorem exists_rows : ∀ {fields : List (String × Value)} {trees : List (String × Tree)},
    writeFields fields = some trees → (∀ part ∈ Value.fieldsParts fields, part.BindsOnce) →
    ∃ rows : List (String × Tree × Value), trees = rows.map (Prod.map id Prod.fst) ∧
      Value.sortedFields fields = rows.map (Prod.map id Prod.snd) ∧
      ∀ row ∈ rows, Reads readValue row.2.1 row.2.2
  | [], _, hwrite, _ => by
    rw [writeFields, Option.some_inj] at hwrite
    subst hwrite
    exact ⟨[], rfl, rfl, List.forall_mem_nil _⟩
  | (name, value) :: rest, _, hwrite, honce => by
    rw [writeFields] at hwrite
    obtain ⟨first, hfirst, hwrite⟩ := Option.bind_eq_some_iff.mp hwrite
    obtain ⟨more, hmore, htrees⟩ := Option.bind_eq_some_iff.mp hwrite
    obtain rfl := Option.some.inj htrees
    rw [Value.fieldsParts, List.forall_mem_append] at honce
    obtain ⟨rows, rfl, hsorted, hrows⟩ := exists_rows hmore honce.2
    refine ⟨(name, first, value.sorted) :: rows, rfl, ?_, ?_⟩
    · rw [Value.sortedFields, hsorted]
      rfl
    · exact List.forall_mem_cons.mpr ⟨reads_value hfirst honce.1, hrows⟩

theorem reads_entries : ∀ {entries : List (Value × Value)} {trees : List Tree},
    writeEntries entries = some trees →
    (∀ part ∈ Value.entriesParts entries, part.BindsOnce) →
    trees.all Tree.isReadable = true ∧ readPairItems trees = some (Value.sortedEntries entries)
  | [], _, hwrite, _ => by
    rw [writeEntries, Option.some_inj] at hwrite
    subst hwrite
    exact ⟨rfl, rfl⟩
  | (key, value) :: rest, _, hwrite, honce => by
    rw [writeEntries] at hwrite
    obtain ⟨keyTree, hkeyTree, hwrite⟩ := Option.bind_eq_some_iff.mp hwrite
    obtain ⟨valueTree, hvalueTree, hwrite⟩ := Option.bind_eq_some_iff.mp hwrite
    obtain ⟨more, hmore, htrees⟩ := Option.bind_eq_some_iff.mp hwrite
    obtain rfl := Option.some.inj htrees
    rw [Value.entriesParts, List.forall_mem_append, List.forall_mem_append] at honce
    have hkey := reads_value hkeyTree honce.1.1
    have hvalue := reads_value hvalueTree honce.1.2
    obtain ⟨hreadable, hread⟩ := reads_entries hmore honce.2
    refine ⟨by simp [hkey.isReadable, hvalue.isReadable, hreadable], ?_⟩
    rw [readPairItems, readPair_entry, hkey.read_eq, hvalue.read_eq, hread, Value.sortedEntries]
    rfl

end

/-! ### What can be written -/

mutual

/-- **A constant is written unless there is a null inside it.** -/
theorem writeValue_eq_none_iff : ∀ value : Value, writeValue value = none ↔ .null ∈ value.parts
  | .null => by simp [writeValue, Value.parts]
  | .bool _ | .int _ | .double _ | .text _ | .enumValue _ _ => by simp [writeValue, Value.parts]
  | .list items => by simp [writeValue, Value.parts, writeValues_eq_none_iff items]
  | .custom type fields => by
    rw [Value.parts, List.mem_cons, ← writeFields_eq_none_iff fields, writeValue]
    cases writeFields fields <;> simp
  | .map entries => by
    rw [Value.parts, List.mem_cons, ← writeEntries_eq_none_iff entries, writeValue]
    cases writeEntries entries <;> simp

theorem writeValues_eq_none_iff :
    ∀ items : List Value, writeValues items = none ↔ .null ∈ Value.itemsParts items
  | [] => by simp [writeValues, Value.itemsParts]
  | item :: rest => by
    rw [Value.itemsParts, List.mem_append, ← writeValue_eq_none_iff item,
      ← writeValues_eq_none_iff rest, writeValues]
    cases writeValue item <;> cases writeValues rest <;> simp

theorem writeFields_eq_none_iff :
    ∀ fields : List (String × Value), writeFields fields = none ↔ .null ∈ Value.fieldsParts fields
  | [] => by simp [writeFields, Value.fieldsParts]
  | (name, value) :: rest => by
    rw [Value.fieldsParts, List.mem_append, ← writeValue_eq_none_iff value,
      ← writeFields_eq_none_iff rest, writeFields]
    cases writeValue value <;> cases writeFields rest <;> simp

theorem writeEntries_eq_none_iff :
    ∀ entries : List (Value × Value),
      writeEntries entries = none ↔ .null ∈ Value.entriesParts entries
  | [] => by simp [writeEntries, Value.entriesParts]
  | (key, value) :: rest => by
    rw [Value.entriesParts, List.mem_append, List.mem_append, ← writeValue_eq_none_iff key,
      ← writeValue_eq_none_iff value, ← writeEntries_eq_none_iff rest, writeEntries]
    cases writeValue key <;> cases writeValue value <;> cases writeEntries rest <;> simp

end

end DartSource.Record
