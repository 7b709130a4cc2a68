import DartSource.Record.Basic
import DartSource.Tree.Basic

/-!
# Fields of tables

A record is read from a table by the names of its fields. A field that is given twice is refused.
A field may be required, or optional, where a null stands for nothing, or have a default, which
only a missing field takes. Names that no field has are left alone.

Some records may also be written as a list of the values of their fields, in a fixed order; fields
at the end may be left out if they need not be given.
-/

namespace DartSource.Record

/-- The names of a table and what they are bound to. -/
abbrev Fields := List (String × Tree)

namespace Fields

/-- What a name is bound to, if anything. A name that is bound twice is refused. -/
def find? (fields : Fields) (name : String) : Option (Option Tree) :=
  match fields.filter fun field => field.1 == name with
  | [] => some none
  | [field] => some (some field.2)
  | _ => none

/-- A field that must be given. -/
def required (fields : Fields) (name : String) (read : Tree → Option α) : Option α := do
  match ← fields.find? name with
  | some tree => read tree
  | none => none

/-- A field that may be missing or null. -/
def optional (fields : Fields) (name : String) (read : Tree → Option α) : Option (Option α) := do
  match ← fields.find? name with
  | some .null => return none
  | some tree => (read tree).map some
  | none => return none

/-- A field that may be missing. -/
def withDefault (fields : Fields) (name : String) (default : α) (read : Tree → Option α) :
    Option α := do
  match ← fields.find? name with
  | some tree => read tree
  | none => return default

/-- No name but these is bound. -/
def onlyNames (fields : Fields) (names : List String) : Bool :=
  fields.all fun field => names.contains field.1

/-- The fields of a table. -/
def ofTable? : Tree → Option Fields
  | .table entries => some entries
  | _ => none

/-- The fields of a table, or of a list of values for these names in this order. Other names in a
table are skipped. With `surplus` a list may have further items, which nobody looks at. -/
def ofTree? (names : List String) (surplus : Bool) : Tree → Option Fields
  | .table entries =>
    if entries.all fun (name, value) => names.contains name || value.isDefined then some entries
    else none
  | .list items =>
    if surplus || items.length ≤ names.length then some (names.zip items) else none
  | _ => none

end Fields

/-! ### Values of fields -/

/-- A text. -/
def readText : Tree → Option String
  | .text value => some value
  | _ => none

/-- A truth value. -/
def readBool : Tree → Option Bool
  | .bool value => some value
  | _ => none

/-- A list, item by item. -/
def readList (read : Tree → Option α) : Tree → Option (List α)
  | .list items => items.mapM read
  | _ => none

/-- Texts by name. A name that comes again keeps its place and takes the later text. -/
def readLabelled : Tree → Option Labelled
  | .table entries => do
    let texts ← entries.mapM fun (name, tree) => (readText tree).map (name, ·)
    return ⟨Assoc.ofList texts⟩
  | _ => none

/-- One of several forms, written as a table with a single name. -/
def readForm : Tree → Option (String × Tree)
  | .table [entry] => some entry
  | _ => none

/-- One of several words. A table that binds the word to nothing is the same as the word. -/
def readWord : Tree → Option String
  | .text word => some word
  | .table [(word, .null)] => some word
  | .table [(word, .table [])] => some word
  | _ => none

/-- The kind of a record, by its name or by its place among the kinds. -/
def readKind (kinds : List String) : Tree → Option String
  | .text name => if kinds.contains name then some name else none
  | .natural index => kinds[index]?
  | _ => none

end DartSource.Record
