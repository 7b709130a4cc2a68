import DartSource.Proofs.Record.Constants

/-!
# Constants in the object notation

The object notation can write every constant: null as it is, scalars and lists directly, and the
rest as small tables (`Value.tree`). A constant may be any of nine forms, and nothing in its tree
says which, so reading goes by what the tree can be read as. No two forms get in each other's way:
what is read from the tree of a constant is this very constant, its fields in their order
(`readValue_tree`). This takes that a custom value binds each of its fields once, which the reader
enforces anyway, and that integers have no more than sixty-four bits, as larger ones are doubles.

Where a record has a field for a constant, the tree stands in a table beside the other fields. A
lookup finds what it looks for wherever it stands (`Fields.find?_insert_self`), and other lookups
do not notice it (`Fields.find?_insert_of_ne`).
-/

namespace DartSource.Record

namespace Value

mutual

/-- The constant as the object notation writes it. An integer without a minus sign is a natural
number there. -/
def tree : Value → Tree
  | .null => .null
  | .bool value => .bool value
  | .int (.ofNat value) => .natural value
  | .int (.negSucc value) => .int (.negSucc value)
  | .double value => .double value
  | .text value => .text value
  | .list items => .list (itemTrees items)
  | .enumValue type value => .table [("enum", .text type), ("value", .text value)]
  | .custom type fields => .table [("custom", .text type), ("fields", .table (fieldTrees fields))]
  | .map entries => .table [("map", .list (entryTrees entries))]

/-- The items of a list. -/
def itemTrees : List Value → List Tree
  | [] => []
  | item :: rest => item.tree :: itemTrees rest

/-- The fields of a custom value. -/
def fieldTrees : List (String × Value) → List (String × Tree)
  | [] => []
  | (name, value) :: rest => (name, value.tree) :: fieldTrees rest

/-- The entries of a map. -/
def entryTrees : List (Value × Value) → List Tree
  | [] => []
  | (key, value) :: rest =>
    .table [("key", key.tree), ("value", value.tree)] :: entryTrees rest

end

/-- An integer has sixty-four bits at most, and a custom value binds each of its fields once. -/
def Storable : Value → Prop
  | .int value => Tree.minInt ≤ value ∧ value ≤ Tree.maxInt
  | value => value.BindsOnce

instance (value : Value) : Decidable value.Storable :=
  match value with
  | .int value => inferInstanceAs (Decidable (Tree.minInt ≤ value ∧ value ≤ Tree.maxInt))
  | .custom _ fields => inferInstanceAs (Decidable (fields.map Prod.fst).Nodup)
  | .null | .bool _ | .double _ | .text _ | .list _ | .enumValue _ _ | .map _ => isTrue trivial

theorem tree_eq_null_iff (value : Value) : value.tree = .null ↔ value = .null := by
  cases value with
  | int value => cases value <;> simp [tree]
  | _ => simp [tree]

/-! ### Trees of constants can be kept -/

mutual

theorem isReadable_tree : ∀ value : Value, value.tree.isReadable = true
  | .null | .bool _ | .double _ | .text _ => rfl
  | .int (.ofNat _) | .int (.negSucc _) => rfl
  | .enumValue _ _ => rfl
  | .list items => areReadable_itemTrees items
  | .custom type fields => by
    simp only [tree, Tree.isReadable, Tree.haveReadable, haveReadable_fieldTrees fields,
      Bool.and_true]
  | .map entries => by
    simp only [tree, Tree.isReadable, Tree.haveReadable, areReadable_entryTrees entries,
      Bool.and_true]

theorem areReadable_itemTrees : ∀ items : List Value, Tree.areReadable (itemTrees items) = true
  | [] => rfl
  | item :: rest => by
    rw [itemTrees, Tree.areReadable, isReadable_tree item, areReadable_itemTrees rest]
    rfl

theorem haveReadable_fieldTrees :
    ∀ fields : List (String × Value), Tree.haveReadable (fieldTrees fields) = true
  | [] => rfl
  | (name, value) :: rest => by
    rw [fieldTrees, Tree.haveReadable, isReadable_tree value, haveReadable_fieldTrees rest]
    rfl

theorem areReadable_entryTrees :
    ∀ entries : List (Value × Value), Tree.areReadable (entryTrees entries) = true
  | [] => rfl
  | (key, value) :: rest => by
    simp only [entryTrees, Tree.areReadable, Tree.isReadable, Tree.haveReadable,
      isReadable_tree key, isReadable_tree value, areReadable_entryTrees rest, Bool.and_true]

end

/-! ### Trees of constants are read as the constants -/

mutual

/-- **The tree of a constant is read as the constant.** -/
theorem readValue_tree : ∀ value : Value, (∀ part ∈ value.parts, part.Storable) →
    readValue value.tree = some value
  | .null, _ | .bool _, _ | .double _, _ | .text _, _ => rfl
  | .int (.negSucc _), _ => rfl
  | .int (.ofNat value), hparts => by
    -- a natural number that is not too large is an integer
    have hrange : (value : Int) ≤ Tree.maxInt := (hparts _ List.mem_cons_self).2
    rw [tree, readValue, if_pos hrange]
    rfl
  | .list items, hparts => by
    rw [parts, List.forall_mem_cons] at hparts
    rw [tree, readValue, readValues_itemTrees items hparts.2]
    rfl
  | .enumValue type value, _ => by
    rw [tree, readValue]
    simp [readEnumValue, Fields.required_eq, Fields.find?_eq_sole]
  | .custom type fields, hparts => by
    rw [parts, List.forall_mem_cons] at hparts
    obtain ⟨hnames, hfields⟩ := hparts
    have hbound := readBound_fieldTrees fields hfields
    -- nothing is bound to `enum`, so the table is no enum value
    rw [tree, readValue]
    simp [readEnumValue, Fields.required_eq, Fields.find?_eq_sole, readCustomFields_eq,
      Fields.withDefault_eq, readBindings, hbound, Assoc.ofList_of_nodup hnames]
  | .map entries, hparts => by
    rw [parts, List.forall_mem_cons] at hparts
    have hentries := readPairItems_entryTrees entries hparts.2
    rw [tree, readValue]
    simp [readEnumValue, Fields.required_eq, Fields.find?_eq_sole, readMapEntries_eq, readPairs,
      hentries]

theorem readValues_itemTrees : ∀ items : List Value,
    (∀ part ∈ itemsParts items, part.Storable) → readValues (itemTrees items) = some items
  | [], _ => rfl
  | item :: rest, hparts => by
    rw [itemsParts, List.forall_mem_append] at hparts
    rw [itemTrees, readValues, readValue_tree item hparts.1, readValues_itemTrees rest hparts.2]
    rfl

theorem readBound_fieldTrees : ∀ fields : List (String × Value),
    (∀ part ∈ fieldsParts fields, part.Storable) → readBound (fieldTrees fields) = some fields
  | [], _ => rfl
  | (name, value) :: rest, hparts => by
    rw [fieldsParts, List.forall_mem_append] at hparts
    rw [fieldTrees, readBound, readValue_tree value hparts.1, readBound_fieldTrees rest hparts.2]
    rfl

theorem readPairItems_entryTrees : ∀ entries : List (Value × Value),
    (∀ part ∈ entriesParts entries, part.Storable) →
    readPairItems (entryTrees entries) = some entries
  | [], _ => rfl
  | (key, value) :: rest, hparts => by
    rw [entriesParts, List.forall_mem_append, List.forall_mem_append] at hparts
    obtain ⟨⟨hkey, hvalue⟩, hrest⟩ := hparts
    have hpair : readPair (.table [("key", key.tree), ("value", value.tree)]) =
        some (key, value) := by
      rw [readPair, readNamed_eq, readNamed_eq]
      simp [Fields.required_eq, Fields.find?_eq_sole, readValue_tree key hkey,
        readValue_tree value hvalue]
    rw [entryTrees, readPairItems, hpair, readPairItems_entryTrees rest hrest]
    rfl

end

/-- The constant that a field holds when the tree of this one stands there. An optional field takes
null for nothing, also where null is the constant. -/
def kept? : Value → Option Value
  | .null => none
  | value => some value

theorem kept?_of_ne_null {value : Value} (h : value ≠ .null) : value.kept? = some value := by
  cases value with
  | null => exact absurd rfl h
  | _ => rfl

theorem readOptional_tree {value : Value} (hparts : ∀ part ∈ value.parts, part.Storable) :
    Fields.readOptional readValue (some value.tree) = some value.kept? := by
  by_cases hnull : value = .null
  · subst hnull
    rfl
  · rw [Fields.readOptional_of_ne_null (mt value.tree_eq_null_iff.mp hnull),
      readValue_tree value hparts, kept?_of_ne_null hnull]
    rfl

end Value

/-! ### One field more -/

namespace Fields

variable {α : Type} {front rest : Fields} {name other : String} {tree : Tree}

/-- A lookup does not notice a field of another name. -/
theorem find?_insert_of_ne (h : name ≠ other) :
    find? (front ++ (name, tree) :: rest) other = find? (front ++ rest) other := by
  have hname : ¬(name == other) = true := mt eq_of_beq h
  rw [find?_eq_sole, find?_eq_sole, List.filter_append, List.filter_append, List.filter_cons,
    if_neg hname]

theorem filter_eq_nil {fields : Fields} (h : name ∉ fields.map Prod.fst) :
    fields.filter (fun field => field.1 == name) = [] := by
  refine List.filter_eq_nil_iff.mpr fun field hmem hname => h ?_
  exact List.mem_map.mpr ⟨field, hmem, eq_of_beq hname⟩

theorem find?_of_notMem {fields : Fields} (h : name ∉ fields.map Prod.fst) :
    find? fields name = some none := by
  rw [find?_eq_sole, filter_eq_nil h, sole_nil]

/-- The field is found where no other has its name. -/
theorem find?_insert_self (h : name ∉ (front ++ rest).map Prod.fst) :
    find? (front ++ (name, tree) :: rest) name = some (some tree) := by
  rw [List.map_append, List.mem_append, not_or] at h
  rw [find?_eq_sole, List.filter_append, List.filter_cons, if_pos (beq_self_eq_true name),
    filter_eq_nil h.1, filter_eq_nil h.2, List.nil_append, sole_singleton]

theorem required_insert_of_ne (h : name ≠ other) (read : Tree → Option α) :
    required (front ++ (name, tree) :: rest) other read = required (front ++ rest) other read := by
  rw [required_eq, required_eq, find?_insert_of_ne h]

theorem optional_insert_of_ne (h : name ≠ other) (read : Tree → Option α) :
    optional (front ++ (name, tree) :: rest) other read = optional (front ++ rest) other read := by
  rw [optional_eq, optional_eq, find?_insert_of_ne h]

theorem withDefault_insert_of_ne (h : name ≠ other) (default : α) (read : Tree → Option α) :
    withDefault (front ++ (name, tree) :: rest) other default read =
      withDefault (front ++ rest) other default read := by
  rw [withDefault_eq, withDefault_eq, find?_insert_of_ne h]

end Fields

end DartSource.Record
