import DartSource.Tree.Toml.Value

/-!
# How deep a tree is written

When a tree is written in the table notation, a table gets a header with its full name, and so does
every table of a list that holds nothing but tables. All other values stand behind their name, with
everything inside them in brackets and braces. Reading sets a limit to the parts of a name and to
the brackets and braces that stand inside each other; `isShallow` says that a tree keeps both, so
that its text can be read back.
-/

namespace DartSource.Toml

/-- A list of tables, which is written as rows with headers of their own. -/
def areRows (items : List Tree) : Bool :=
  !items.isEmpty && items.all fun item => (item matches .table _)

mutual

/-- The number of brackets and braces around the innermost part of a value. -/
def depth : Tree → Nat
  | .list items => itemsDepth items + 1
  | .table entries => entriesDepth entries + 1
  | _ => 0

/-- The depth of the deepest item. -/
def itemsDepth : List Tree → Nat
  | [] => 0
  | item :: rest => max (depth item) (itemsDepth rest)

/-- The depth of the deepest bound value. -/
def entriesDepth : List (String × Tree) → Nat
  | [] => 0
  | (_, value) :: rest => max (depth value) (entriesDepth rest)

end

mutual

/-- What is bound to a name of the given number of parts keeps the limits. -/
def fits (parts : Nat) : Tree → Bool
  | .table entries => parts ≤ nestingLimit && entriesFit (parts + 1) entries
  | .list items =>
    if areRows items then parts ≤ nestingLimit && rowsFit parts items
    else itemsDepth items < nestingLimit
  | _ => true

/-- What is bound to names of the given number of parts keeps the limits. -/
def entriesFit (parts : Nat) : List (String × Tree) → Bool
  | [] => true
  | (_, value) :: rest => fits parts value && entriesFit parts rest

/-- Rows under a name of the given number of parts keep the limits. -/
def rowsFit (parts : Nat) : List Tree → Bool
  | [] => true
  | row :: rest => fits parts row && rowsFit parts rest

end

/-- The tree of a document keeps the limits of reading. -/
def isShallow : Tree → Bool
  | .table entries => entriesFit 1 entries
  | _ => false

end DartSource.Toml
