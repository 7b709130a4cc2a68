import DartSource.Tree.Toml.Scalar
import DartSource.Tree.Toml.Table
import DartSource.Tree.Toml.Token

/-!
# Names and values of the table notation

A name is a row of parts with dots between them; blanks may surround the dots. A value is a quoted
text, an unquoted scalar, a list or a table in braces. Lists and tables in braces may run over
several lines, with line ends wherever blanks may stand except within a name, and may have a comma
at their end. Every reader gives what is left of the tokens, which is always less, so the recursion
ends.

Lists and tables in braces may stand inside each other `nestingLimit` levels deep, and a name may
have as many parts.
-/

namespace DartSource.Toml

/-- A dotted name: the parts in front of the last one, and the last one. -/
structure Key where
  path : List String
  name : String
  deriving DecidableEq, Repr, Inhabited

/-! ### Blanks -/

/-- Drops a blank at the front. -/
def skipBlank : List Token → List Token
  | .blank _ :: rest => rest
  | rest => rest

/-- A blank or a line end. -/
def Token.isSpace : Token → Bool
  | .blank _ | .lineEnd => true
  | _ => false

/-- Drops blanks and line ends at the front. -/
def skipLines (input : List Token) : List Token :=
  input.dropWhile Token.isSpace

/-- Dropping a blank leaves no more than there was. -/
theorem length_skipBlank_le (input : List Token) : (skipBlank input).length ≤ input.length := by
  unfold skipBlank
  split <;> simp

/-- Dropping blanks and line ends leaves no more than there was. -/
theorem length_skipLines_le (input : List Token) : (skipLines input).length ≤ input.length :=
  length_dropWhile_le _ _

/-! ### Names -/

/-- A character of a name without quotes. -/
def isBare (c : Char) : Bool :=
  c.isAlphanum || c == '_' || c == '-'

/-- The part of a name that a token is. -/
def keyPart? : Token → Option String
  | .word chars => if chars.all isBare then some (String.ofList chars) else none
  | .quoted text => some text
  | _ => none

/-- The parts of a dotted name at the front, and what follows them and the blank behind them. -/
def readParts (input : List Token) : Option (Key × Rest input) :=
  match input with
  | [] => none
  | token :: rest =>
    match keyPart? token with
    | none => none
    | some part =>
      match h : skipBlank rest with
      | .dot :: more =>
        have : (skipBlank more).length < (token :: rest).length := by
          have first := length_skipBlank_le rest
          have second := length_skipBlank_le more
          simp only [h, List.length_cons] at first ⊢
          omega
        (readParts (skipBlank more)).map fun (key, after) =>
          (⟨part :: key.path, key.name⟩, after.ofLe (Nat.le_of_lt this))
      | after =>
        some (⟨[], part⟩, ⟨after, Nat.lt_succ_of_le (h ▸ length_skipBlank_le rest)⟩)
termination_by input.length
decreasing_by assumption

/-- How many lists and tables in braces may stand inside each other, and how many parts a name may
have. -/
def nestingLimit : Nat := 80

/-- A dotted name at the front, and what follows it and the blank behind it. -/
def readKey (input : List Token) : Option (Key × Rest input) :=
  (readParts input).filter fun (key, _) => key.path.length < nestingLimit

/-! ### Scalars -/

/-- The characters of a token that may be a part of an unquoted scalar. -/
def scalarPart? : Token → Option (List Char)
  | .word chars => some chars
  | .dot => some ['.']
  | _ => none

/-- A token that may be a part of an unquoted scalar. -/
def isScalarPart (token : Token) : Bool :=
  (scalarPart? token).isSome

/-- The characters of the scalar at the front. -/
def scalarChars (input : List Token) : List Char :=
  ((input.takeWhile isScalarPart).filterMap scalarPart?).flatten

/-- The text is a date and nothing more. -/
def isDate (chars : List Char) : Bool :=
  match readDate? chars with
  | some (_, []) => true
  | _ => false

/-- An unquoted scalar at the front, and what follows. One space may stand between a date and a
time. -/
def readScalar (input : List Token) : Option (Tree × Rest input) :=
  if h : (input.takeWhile isScalarPart).isEmpty = false then
    let chars := scalarChars input
    let rest : Rest input := ⟨input.dropWhile isScalarPart, length_dropWhile_lt h⟩
    match rest with
    | ⟨.blank [' '] :: .word time :: more, shorter⟩ =>
      if isDate chars && (time.head?.any Char.isDigit) then
        (scalar? (chars ++ ' ' :: (time ++ scalarChars more))).map fun value =>
          (value, ⟨more.dropWhile isScalarPart, by
            have := length_dropWhile_le isScalarPart more
            simp only [List.length_cons] at shorter
            omega⟩)
      else (scalar? chars).map (·, rest)
    | _ => (scalar? chars).map (·, rest)
  else none

/-! ### Values -/

mutual

/-- A value at the front, inside `depth` lists and tables in braces, and what follows. -/
def readValue (depth : Nat) : (input : List Token) → Option (Tree × Rest input)
  | .quoted text :: rest => some (.text text, .tail _ rest)
  | .block text :: rest => some (.text text, .tail _ rest)
  | .openBracket :: rest =>
    if nestingLimit ≤ depth then none
    else
      have : (skipLines rest).length < rest.length + 1 :=
        Nat.lt_succ_of_le (length_skipLines_le rest)
      (readItems (depth + 1) (skipLines rest)).map fun (items, after) =>
        (.list items, after.ofLe (Nat.le_of_lt this))
  | .openBrace :: rest =>
    if nestingLimit ≤ depth then none
    else
      have : (skipLines rest).length < rest.length + 1 :=
        Nat.lt_succ_of_le (length_skipLines_le rest)
      (readPairs (depth + 1) [] (skipLines rest)).map fun (entries, after) =>
        (Entries.tree entries, after.ofLe (Nat.le_of_lt this))
  | input => readScalar input
termination_by input => (input.length, 0)

/-- The items of a list up to its closing bracket. A comma stands between two items and may stand
behind the last. -/
def readItems (depth : Nat) : (input : List Token) → Option (List Tree × Rest input)
  | .closeBracket :: rest => some ([], .tail _ rest)
  | input =>
    match readValue depth input with
    | none => none
    | some (item, rest) =>
      have trimmed := length_skipLines_le rest.val
      match h : skipLines rest.val with
      | .comma :: more =>
        have : (skipLines more).length < input.length := by
          have first := length_skipLines_le more
          have second := rest.property
          simp only [h, List.length_cons] at trimmed
          omega
        (readItems depth (skipLines more)).map fun (items, after) =>
          (item :: items, after.ofLe (Nat.le_of_lt this))
      | .closeBracket :: after =>
        some ([item], ⟨after, by
          have := rest.property
          simp only [h, List.length_cons] at trimmed
          omega⟩)
      | _ => none
termination_by input => (input.length, 1)

/-- The assignments of a table up to its closing brace, added to those before. A comma stands
between two assignments and may stand behind the last. -/
def readPairs (depth : Nat) (entries : Entries) :
    (input : List Token) → Option (Entries × Rest input)
  | .closeBrace :: rest => some (entries, .tail _ rest)
  | input =>
    match readKey input with
    | none => none
    | some (key, rest) =>
      have behindKey := length_skipLines_le rest.val
      match h₁ : skipLines rest.val with
      | .equals :: more =>
        have inner : (skipLines more).length < input.length := by
          have first := length_skipLines_le more
          have second := rest.property
          simp only [h₁, List.length_cons] at behindKey
          omega
        match readValue depth (skipLines more) with
        | none => none
        | some (value, rest) =>
          have trimmed := length_skipLines_le rest.val
          match entries.assign key.path key.name value, h₂ : skipLines rest.val with
          | some entries, .comma :: more =>
            have : (skipLines more).length < input.length := by
              have first := length_skipLines_le more
              have second := rest.property
              simp only [h₂, List.length_cons] at trimmed
              omega
            (readPairs depth entries (skipLines more)).map fun (entries, after) =>
              (entries, after.ofLe (Nat.le_of_lt this))
          | some entries, .closeBrace :: after =>
            some (entries, ⟨after, by
              have := rest.property
              simp only [h₂, List.length_cons] at trimmed
              omega⟩)
          | _, _ => none
      | _ => none
termination_by input => (input.length, 1)

end

end DartSource.Toml
