import DartSource.Assoc
import DartSource.Tree.Basic

/-!
# Tables under construction

The table notation spreads a table over its text: a header opens it, assignments with dotted names
reach into it, and a header of rows adds one more table to a list. What may still be added depends
on how a table came to be, so a table under construction remembers its **origin**.

* An `implicit` table was passed through by a header. A header of its own may still define it, once.
* A `dotted` table was passed through by a dotted name. Further dotted names may add to it, and no
  header may define it.
* A table with a `header` is defined. No dotted name and no second header may reach into it from
  outside.

Values are closed: nothing is ever added to a list or a table that was written as a value. When
construction ends, the names of every table are put into ascending order.
-/

namespace DartSource.Toml

/-- How a table came to be. -/
inductive Origin where
  /-- Passed through by a header. -/
  | implicit
  /-- Passed through by a dotted name. -/
  | dotted
  /-- Defined. -/
  | header
  deriving DecidableEq, Repr, Inhabited

/-- What a name is bound to while a table is under construction. -/
inductive Node where
  /-- A value, to which nothing can be added. -/
  | closed (value : Tree)
  /-- A table. -/
  | table (origin : Origin) (entries : List (String × Node))
  /-- A list of tables that headers of rows have opened: the last one, and those before it from the
  latest to the first. -/
  | rows (last : List (String × Node)) (earlier : List (List (String × Node)))
  deriving Inhabited

/-- The names of a table under construction. -/
abbrev Entries := List (String × Node)

namespace Entries

/-- Walks along names from a table of the given origin and changes the table at the end of the walk.
Tables that are missing on the way come to be by it; of a list of tables, the last one is meant. A
dotted walk does not enter a defined table. -/
def change (isDotted : Bool) (act : Origin → Entries → Option Entries) :
    List String → Origin → Entries → Option Entries
  | [], origin, entries => act origin entries
  | name :: path, _, entries =>
    match Assoc.get? name entries with
    | none => do
      let origin : Origin := if isDotted then .dotted else .implicit
      let inner ← change isDotted act path origin []
      return Assoc.put name (.table origin inner) entries
    | some (.table origin inner) =>
      if isDotted && origin == .header then none
      else do
        let inner ← change isDotted act path origin inner
        return Assoc.put name (.table origin inner) entries
    | some (.rows last earlier) => do
      let last ← change isDotted act path .header last
      return Assoc.put name (.rows last earlier) entries
    | some (.closed _) => none

/-- Binds a name that is not bound yet. A dotted name must end in a table that dotted names have
made, and a plain name must not. -/
def bind (isDotted : Bool) (name : String) (value : Tree) (origin : Origin) (entries : Entries) :
    Option Entries :=
  if (origin == .dotted) != isDotted || (Assoc.get? name entries).isSome then none
  else some (entries ++ [(name, .closed value)])

/-- Assigns a value to a dotted name, counted from a defined table. -/
def assign (path : List String) (name : String) (value : Tree) (entries : Entries) :
    Option Entries :=
  change (!path.isEmpty) (bind (!path.isEmpty) name value) path .header entries

/-- Defines a table by a header. A table that was only passed through keeps what it holds. -/
def define (name : String) (_ : Origin) (entries : Entries) : Option Entries :=
  match Assoc.get? name entries with
  | none => some (entries ++ [(name, .table .header [])])
  | some (.table .implicit inner) => some (Assoc.put name (.table .header inner) entries)
  | some _ => none

/-- Adds a table to a list of tables. -/
def addRow (name : String) (_ : Origin) (entries : Entries) : Option Entries :=
  match Assoc.get? name entries with
  | none => some (entries ++ [(name, .rows [] [])])
  | some (.rows last earlier) => some (Assoc.put name (.rows [] (last :: earlier)) entries)
  | some _ => none

end Entries

mutual

/-- The tree that a node has become when construction ends. -/
def Node.tree : Node → Tree
  | .closed value => value
  | .table _ entries => .ofEntries (entryTrees entries)
  | .rows last earlier => .list (rowTrees earlier [.ofEntries (entryTrees last)])

/-- The trees that names are bound to when construction ends. -/
def entryTrees : List (String × Node) → List (String × Tree)
  | [] => []
  | (name, node) :: rest => (name, node.tree) :: entryTrees rest

/-- The trees of rows, given from the latest to the first, in front of those that follow. -/
def rowTrees : List (List (String × Node)) → List Tree → List Tree
  | [], after => after
  | row :: rest, after => rowTrees rest (.ofEntries (entryTrees row) :: after)

end

/-- The tree of a table when construction ends. -/
def Entries.tree (entries : Entries) : Tree :=
  .ofEntries (entryTrees entries)

end DartSource.Toml
