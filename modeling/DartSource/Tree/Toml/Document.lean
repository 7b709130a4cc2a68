import DartSource.Tree.Toml.Value

/-!
# Documents of the table notation

A document is a row of statements, one to a line: headers that define a table or add one to a list
of tables, and assignments, which count from the table of the last header. The statements are read
first and then carried out on an empty table, up to the first that is not allowed.
-/

namespace DartSource.Toml

/-- One line of a document. -/
inductive Statement where
  /-- `key = value` -/
  | assign (key : Key) (value : Tree)
  /-- `[key]` -/
  | define (key : Key)
  /-- `[[key]]` -/
  | addRow (key : Key)
  deriving Repr, Inhabited

/-! ### Reading statements -/

/-- An assignment at the front, and what follows. -/
def readAssignment (input : List Token) : Option (Statement × Rest input) :=
  match readKey input with
  | some (key, ⟨.equals :: rest, shorter⟩) =>
    have inner : (skipBlank rest).length ≤ input.length :=
      Nat.le_trans (length_skipBlank_le rest) (Nat.le_of_lt (Nat.lt_of_succ_lt shorter))
    (readValue 0 (skipBlank rest)).map fun (value, after) => (.assign key value, after.ofLe inner)
  | _ => none

/-- A header behind its opening brackets, and what follows. -/
def readHeader (isRow : Bool) (input : List Token) : Option (Statement × Rest input) :=
  have trimmed := length_skipBlank_le input
  match readKey (skipBlank input) with
  | some (key, ⟨.closeBracket :: .closeBracket :: after, shorter⟩) =>
    if isRow then
      some (.addRow key, ⟨after, by simp only [List.length_cons] at shorter; omega⟩)
    else none
  | some (key, ⟨.closeBracket :: after, shorter⟩) =>
    if isRow then none
    else some (.define key, ⟨after, by simp only [List.length_cons] at shorter; omega⟩)
  | _ => none

/-- A statement at the front, and what follows. -/
def readStatement : (input : List Token) → Option (Statement × Rest input)
  | .openBracket :: .openBracket :: rest =>
    (readHeader true rest).map fun (statement, after) =>
      (statement, after.ofLe (by simp only [List.length_cons]; omega))
  | .openBracket :: rest =>
    (readHeader false rest).map fun (statement, after) => (statement, after.ofLe (by simp))
  | input => readAssignment input

/-- The statements of a document, each on a line of its own. -/
def statements? (input : List Token) : Option (List Statement) :=
  have outer := length_skipLines_le input
  match h : skipLines input with
  | [] => some []
  | token :: more =>
    match readStatement (token :: more) with
    | none => none
    | some (statement, rest) =>
      have trimmed := length_skipBlank_le rest.val
      have shorter := rest.property
      match ht : skipBlank rest.val with
      | [] => some [statement]
      | .lineEnd :: after =>
        have : after.length < input.length := by
          simp only [h, ht, List.length_cons] at outer trimmed shorter
          omega
        (statements? after).map (statement :: ·)
      | _ => none
termination_by input.length

/-! ### Carrying them out -/

/-- The table under construction, and the name of the table that assignments count from. -/
structure Progress where
  root : Entries := []
  current : List String := []
  deriving Inhabited

/-- Carries out one statement, if it is allowed. -/
def Progress.step (progress : Progress) : Statement → Option Progress
  | .assign key value => do
    let act : Origin → Entries → Option Entries := fun _ entries =>
      entries.assign key.path key.name value
    let root ← Entries.change false act progress.current .header progress.root
    return { progress with root }
  | .define key => do
    let root ← Entries.change false (Entries.define key.name) key.path .header progress.root
    return { root, current := key.path ++ [key.name] }
  | .addRow key => do
    let root ← Entries.change false (Entries.addRow key.name) key.path .header progress.root
    return { root, current := key.path ++ [key.name] }

/-- A byte order mark in front of the text is not a part of it. -/
def dropByteOrderMark : List Char → List Char
  | '\ufeff' :: rest => rest
  | chars => chars

/-- The tree of a whole text. -/
def parse? (text : String) : Option Tree := do
  let tokens ← tokens? (dropByteOrderMark text.toList)
  let statements ← statements? tokens
  let progress ← statements.foldlM Progress.step {}
  return progress.root.tree

end DartSource.Toml
