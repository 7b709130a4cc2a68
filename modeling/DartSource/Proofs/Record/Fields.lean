import DartSource.Record.Decode
import DartSource.Record.Encode
import Mathlib.Data.List.Basic
import Mathlib.Data.List.Forall2

/-!
# Reading a table that was written

A record is written as a table of its fields, in ascending order of their names, and read by
looking for each field by name. A lookup asks for the entries of one name and does not notice their
order (`Fields.sole_of_perm`), so what it finds is settled by the row of fields as the writer lists
them: `Fields.find?_sortEntries`. That row consists of single entries and of fields that may be
absent, and each of them answers for its own name only. With the lemmas below `simp` walks along it,
so a record is read back field by field.

Some readers take in a whole tree before they look at its fields, and an optional field takes null
for nothing. `Reads` therefore says three things of a tree: it can be kept, it is not null, and it
is read as the record. A tree that can be kept can also be skipped
(`Tree.isDefined_of_isReadable`), so its table is taken with all its fields, whatever names the
reader asks for (`Fields.ofTree?_ofEntries`).
-/

namespace DartSource

/-! ### Trees that can be kept -/

namespace Tree

theorem sortEntries_perm (entries : List (String × Tree)) : (sortEntries entries).Perm entries :=
  List.mergeSort_perm _ _

@[simp] theorem all_sortEntries (entries : List (String × Tree)) (p : String × Tree → Bool) :
    (sortEntries entries).all p = entries.all p :=
  (sortEntries_perm entries).all_eq

theorem areReadable_eq (items : List Tree) : areReadable items = items.all isReadable := by
  induction items with
  | nil => rfl
  | cons item rest ih => rw [areReadable, ih, List.all_cons]

theorem haveReadable_eq (entries : List (String × Tree)) :
    haveReadable entries = entries.all fun entry => entry.2.isReadable := by
  induction entries with
  | nil => rfl
  | cons entry rest ih => rw [haveReadable, ih, List.all_cons]

@[simp] theorem isReadable_text (text : String) : (Tree.text text).isReadable = true := by
  simp [isReadable]

@[simp] theorem isReadable_bool (value : Bool) : (Tree.bool value).isReadable = true := by
  simp [isReadable]

@[simp] theorem isReadable_list (items : List Tree) :
    (Tree.list items).isReadable = items.all isReadable := by
  rw [isReadable, areReadable_eq]

@[simp] theorem isReadable_table (entries : List (String × Tree)) :
    (Tree.table entries).isReadable = entries.all fun entry => entry.2.isReadable := by
  rw [isReadable, haveReadable_eq]

@[simp] theorem isReadable_ofEntries (entries : List (String × Tree)) :
    (ofEntries entries).isReadable = entries.all fun entry => entry.2.isReadable := by
  rw [ofEntries, isReadable_table, all_sortEntries]

mutual

/-- What can be kept can be skipped. -/
theorem isDefined_of_isReadable : ∀ {tree : Tree}, tree.isReadable = true → tree.isDefined = true
  | .null, _ | .bool _, _ | .int _, _ | .natural _, _ | .double _, _ | .text _, _ => by
    simp [isDefined]
  | .list items, h => by
    rw [isReadable] at h
    rw [isDefined, areDefined_of_areReadable h]
  | .table entries, h => by
    rw [isReadable] at h
    rw [isDefined, haveDefined_of_haveReadable h]
  | .unreadable, h | .undefined, h => by simp [isReadable] at h

theorem areDefined_of_areReadable :
    ∀ {items : List Tree}, areReadable items = true → areDefined items = true
  | [], _ => rfl
  | item :: rest, h => by
    rw [areReadable, Bool.and_eq_true] at h
    rw [areDefined, isDefined_of_isReadable h.1, areDefined_of_areReadable h.2, Bool.and_true]

theorem haveDefined_of_haveReadable :
    ∀ {entries : List (String × Tree)}, haveReadable entries = true → haveDefined entries = true
  | [], _ => rfl
  | (_, value) :: rest, h => by
    rw [haveReadable, Bool.and_eq_true] at h
    rw [haveDefined, isDefined_of_isReadable h.1, haveDefined_of_haveReadable h.2, Bool.and_true]

end

end Tree

namespace Record

/-- The tree can be kept, stands for something, and is read as the record. -/
structure Reads {α : Type} (read : Tree → Option α) (tree : Tree) (record : α) : Prop where
  isReadable : tree.isReadable = true
  ne_null : tree ≠ .null
  read_eq : read tree = some record

/-! ### Lookups -/

namespace Fields

variable {α : Type}

/-- What the only one of some entries is bound to, if there are any. More than one are refused. -/
def sole : Fields → Option (Option Tree)
  | [] => some none
  | [field] => some (some field.2)
  | _ => none

theorem find?_eq_sole (fields : Fields) (name : String) :
    fields.find? name = sole (fields.filter fun field => field.1 == name) :=
  rfl

/-- The order of entries does not matter where at most one is accepted. -/
theorem sole_of_perm {fields others : Fields} (h : fields.Perm others) :
    sole fields = sole others := by
  match others, fields, h with
  | [], _, h => rw [h.eq_nil]
  | [field], _, h => rw [h.eq_singleton]
  | _ :: _ :: _, [], h | _ :: _ :: _, [_], h => exact absurd h.length_eq (by simp)
  | _ :: _ :: _, _ :: _ :: _, _ => rfl

theorem find?_of_perm {fields others : Fields} (h : fields.Perm others) (name : String) :
    fields.find? name = others.find? name :=
  sole_of_perm (h.filter _)

/-- A lookup in a sorted table asks the row of its entries. -/
theorem find?_sortEntries (entries : Fields) (name : String) :
    find? (Tree.sortEntries entries) name = sole (entries.filter fun entry => entry.1 == name) :=
  find?_of_perm (Tree.sortEntries_perm entries) name

/-- A field that may be missing or null, once it is looked up. -/
def readOptional (read : Tree → Option α) : Option Tree → Option (Option α)
  | some .null => some none
  | some tree => (read tree).map some
  | none => some none

/-- A field that may be missing, once it is looked up. -/
def readDefault (default : α) (read : Tree → Option α) : Option Tree → Option α
  | some tree => read tree
  | none => some default

theorem required_eq (fields : Fields) (name : String) (read : Tree → Option α) :
    fields.required name read = (fields.find? name).bind fun slot => slot.bind read := by
  unfold required
  refine Option.bind_congr fun slot _ => ?_
  cases slot with
  | none => rfl
  | some tree => rfl

theorem optional_eq (fields : Fields) (name : String) (read : Tree → Option α) :
    fields.optional name read = (fields.find? name).bind (readOptional read) :=
  rfl

theorem withDefault_eq (fields : Fields) (name : String) (default : α) (read : Tree → Option α) :
    fields.withDefault name default read = (fields.find? name).bind (readDefault default read) :=
  rfl

@[simp] theorem required_sortEntries (entries : Fields) (name : String) (read : Tree → Option α) :
    required (Tree.sortEntries entries) name read =
      (sole (entries.filter fun entry => entry.1 == name)).bind fun slot => slot.bind read := by
  rw [required_eq, find?_sortEntries]

@[simp] theorem optional_sortEntries (entries : Fields) (name : String) (read : Tree → Option α) :
    optional (Tree.sortEntries entries) name read =
      (sole (entries.filter fun entry => entry.1 == name)).bind (readOptional read) := by
  rw [optional_eq, find?_sortEntries]

@[simp] theorem withDefault_sortEntries (entries : Fields) (name : String) (default : α)
    (read : Tree → Option α) :
    withDefault (Tree.sortEntries entries) name default read =
      (sole (entries.filter fun entry => entry.1 == name)).bind (readDefault default read) := by
  rw [withDefault_eq, find?_sortEntries]

@[simp] theorem onlyNames_sortEntries (entries : Fields) (names : List String) :
    onlyNames (Tree.sortEntries entries) names = onlyNames entries names :=
  Tree.all_sortEntries _ _

@[simp] theorem ofTable?_table (entries : Fields) : ofTable? (.table entries) = some entries :=
  rfl

@[simp] theorem ofTable?_ofEntries (entries : Fields) :
    ofTable? (.ofEntries entries) = some (Tree.sortEntries entries) :=
  rfl

theorem ofTree?_ofEntries {entries : Fields} (names : List String) (surplus : Bool)
    (h : (Tree.ofEntries entries).isReadable = true) :
    ofTree? names surplus (.ofEntries entries) = some (Tree.sortEntries entries) := by
  rw [Tree.isReadable_ofEntries, List.all_eq_true] at h
  have hskip : ∀ entry ∈ Tree.sortEntries entries,
      (names.contains entry.1 || entry.2.isDefined) = true := fun entry hentry => by
    have hmem : entry ∈ entries := (Tree.sortEntries_perm entries).mem_iff.mp hentry
    rw [Tree.isDefined_of_isReadable (h entry hmem), Bool.or_true]
  rw [Tree.ofEntries, ofTree?, if_pos (List.all_eq_true.mpr hskip)]

/-! ### Fields as they are written -/

attribute [simp] textField textsField

@[simp] theorem sole_nil : sole [] = some none :=
  rfl

@[simp] theorem sole_singleton (field : String × Tree) : sole [field] = some (some field.2) :=
  rfl

@[simp] theorem sole_optionalField (name : String) (tree : Option Tree) :
    sole (optionalField name tree) = some tree := by
  cases tree with
  | none => rfl
  | some tree => rfl

@[simp] theorem sole_optionalText (name : String) (text : Option String) :
    sole (optionalText name text) = some (text.map .text) :=
  sole_optionalField _ _

@[simp] theorem filter_optionalField (name other : String) (tree : Option Tree) :
    (optionalField name tree).filter (fun field => field.1 == other) =
      if name = other then optionalField name tree else [] := by
  cases tree with
  | none => simp [optionalField]
  | some tree => simp [optionalField, List.filter_cons]

@[simp] theorem filter_optionalText (name other : String) (text : Option String) :
    (optionalText name text).filter (fun field => field.1 == other) =
      if name = other then optionalText name text else [] :=
  filter_optionalField _ _ _

@[simp] theorem filter_optionalList (name other : String) (items : List Tree) :
    (optionalList name items).filter (fun field => field.1 == other) =
      if name = other then optionalList name items else [] := by
  cases items with
  | nil => simp [optionalList]
  | cons item rest => simp [optionalList, List.filter_cons]

@[simp] theorem all_optionalField (name : String) (tree : Option Tree)
    (p : String × Tree → Bool) :
    (optionalField name tree).all p = tree.all fun tree => p (name, tree) := by
  cases tree with
  | none => rfl
  | some tree => simp [optionalField]

@[simp] theorem all_optionalText_isReadable (name : String) (text : Option String) :
    ((optionalText name text).all fun entry => entry.2.isReadable) = true := by
  cases text with
  | none => rfl
  | some text => simp [optionalText]

@[simp] theorem all_optionalList_isReadable (name : String) (items : List Tree) :
    ((optionalList name items).all fun entry => entry.2.isReadable) =
      items.all Tree.isReadable := by
  cases items with
  | nil => rfl
  | cons item rest => simp [optionalList]

/-! ### Fields as they are read -/

@[simp] theorem readText_text (text : String) : readText (.text text) = some text :=
  rfl

@[simp] theorem readBool_bool (value : Bool) : readBool (.bool value) = some value :=
  rfl

theorem readOptional_of_ne_null {read : Tree → Option α} {tree : Tree} (h : tree ≠ .null) :
    readOptional read (some tree) = (read tree).map some := by
  cases tree with
  | null => exact absurd rfl h
  | _ => rfl

@[simp] theorem readDefault_some (default : α) (read : Tree → Option α) (tree : Tree) :
    readDefault default read (some tree) = read tree :=
  rfl

/-- A list that was left out was empty. -/
@[simp] theorem bind_sole_optionalList (name : String) (items : List Tree)
    (read : Tree → Option α) :
    (sole (optionalList name items)).bind (readDefault [] (readList read)) =
      readList read (.list items) := by
  cases items with
  | nil => rfl
  | cons item rest => simp [optionalList]

end Fields

/-! ### Lists and optional fields -/

namespace Reads

variable {α β : Type} {read : Tree → Option β}

/-- A table, of which a reader may count on what it takes in. -/
theorem ofEntries {entries : Fields} {record : β}
    (hreadable : (Tree.ofEntries entries).isReadable = true)
    (hread : (Tree.ofEntries entries).isReadable = true →
      read (.ofEntries entries) = some record) :
    Reads read (.ofEntries entries) record :=
  ⟨hreadable, by simp [Tree.ofEntries], hread hreadable⟩

/-- Items that are read one by one are read as a list. -/
theorem items {trees : List Tree} {records : List β}
    (h : List.Forall₂ (Reads read) trees records) :
    Reads (readList read) (.list trees) records := by
  refine ⟨?_, by simp, ?_⟩
  · rw [Tree.isReadable_list]
    induction h with
    | nil => rfl
    | cons hfirst _ ih => rw [List.all_cons, hfirst.isReadable, ih, Bool.and_true]
  · change trees.mapM read = some records
    induction h with
    | nil => rfl
    | cons hfirst _ ih =>
      rw [List.mapM_cons, hfirst.read_eq, ih]
      rfl

theorem list {write : α → Tree} {f : α → β} {items : List α}
    (h : ∀ item ∈ items, Reads read (write item) (f item)) :
    Reads (readList read) (.list (items.map write)) (items.map f) := by
  refine Reads.items ?_
  rw [List.forall₂_map_left_iff, List.forall₂_map_right_iff, List.forall₂_same]
  exact h

theorem list_self {write : β → Tree} (h : ∀ item, Reads read (write item) item)
    (items : List β) : Reads (readList read) (.list (items.map write)) items := by
  simpa only [List.map_id'] using list fun item (_ : item ∈ items) => h item

/-- Items that can all be written are read as a list. -/
theorem of_mapM {write : α → Option Tree} {f : α → β} {items : List α} {trees : List Tree}
    (hwrite : items.mapM write = some trees)
    (h : ∀ item ∈ items, ∀ tree, write item = some tree → Reads read tree (f item)) :
    Reads (readList read) (.list trees) (items.map f) := by
  refine Reads.items ?_
  induction items generalizing trees with
  | nil =>
    obtain rfl := Option.some.inj hwrite
    exact .nil
  | cons item rest ih =>
    rw [List.mapM_cons] at hwrite
    obtain ⟨first, hfirst, hwrite⟩ := Option.bind_eq_some_iff.mp hwrite
    obtain ⟨more, hmore, htrees⟩ := Option.bind_eq_some_iff.mp hwrite
    obtain rfl := Option.some.inj htrees
    rw [List.forall_mem_cons] at h
    exact .cons (h.1 first hfirst) (ih hmore h.2)

/-- What is there is read, and what is absent stays absent. -/
theorem optional {write : α → Tree} {f : α → β} {item : Option α}
    (h : ∀ x ∈ item, Reads read (write x) (f x)) :
    Fields.readOptional read (item.map write) = some (item.map f) := by
  cases item with
  | none => rfl
  | some item =>
    obtain ⟨-, hnull, hread⟩ := h item rfl
    rw [Option.map_some, Fields.readOptional_of_ne_null hnull, hread]
    rfl

theorem optional_self {write : β → Tree} (h : ∀ item, Reads read (write item) item)
    (item : Option β) : Fields.readOptional read (item.map write) = some item := by
  simpa only [Option.map_id'] using optional fun x (_ : x ∈ item) => h x

theorem text (text : String) : Reads readText (.text text) text :=
  ⟨Tree.isReadable_text text, by simp, rfl⟩

end Reads

theorem reads_texts (texts : List String) :
    Reads (readList readText) (.list (texts.map .text)) texts :=
  Reads.list_self Reads.text texts

end Record

end DartSource
