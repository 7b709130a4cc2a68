import DartSource.Number.Read
import DartSource.Tree.Basic

/-!
# The object notation

A strict reading of the notation: no comments, no trailing commas, no zero in front of another
digit, no raw control characters inside a text, nothing behind the value. The text is first cut
into tokens, each shorter than what was left, and the tokens are then read by recursive descent;
both steps end because what is left grows shorter.

Lists and tables may stand inside each other `nestingLimit` levels deep. What stands deeper is
well formed but unreadable.
-/

namespace DartSource.Json

/-- The words of the notation. -/
inductive Token where
  | openList
  | closeList
  | openTable
  | closeTable
  | comma
  | colon
  /-- A quoted text, unless it holds half of a character. -/
  | quoted (text : Option String)
  /-- A number, or one of the three names. -/
  | scalar (value : Tree)
  deriving Repr, Inhabited

/-! ### Quoted texts -/

/-- A character that has an escape of one letter. -/
def shortEscape? : Char → Option Char
  | '"' => some '"'
  | '\\' => some '\\'
  | '/' => some '/'
  | 'b' => some '\x08'
  | 'f' => some '\x0c'
  | 'n' => some '\n'
  | 'r' => some '\r'
  | 't' => some '\t'
  | _ => none

/-- The first of two escapes that make up one character. -/
def isHighHalf (unit : Nat) : Bool := 0xD800 ≤ unit && unit ≤ 0xDBFF

/-- The second of two escapes that make up one character. -/
def isLowHalf (unit : Nat) : Bool := 0xDC00 ≤ unit && unit ≤ 0xDFFF

/-- The contents of a quoted text as numbers, up to the closing quote. A number is a character, or
half of one if it was written as an escape. -/
def readUnits : List Char → Option (List Nat × List Char)
  | [] => none
  | '"' :: rest => some ([], rest)
  | '\\' :: 'u' :: a :: b :: c :: d :: rest => do
    let unit ← hexNumber? [a, b, c, d]
    let (units, after) ← readUnits rest
    return (unit :: units, after)
  | '\\' :: letter :: rest => do
    let c ← shortEscape? letter
    let (units, after) ← readUnits rest
    return (c.toNat :: units, after)
  | c :: rest =>
    if c.toNat < 0x20 then none
    else do
      let (units, after) ← readUnits rest
      return (c.toNat :: units, after)

/-- The characters that numbers denote. Two halves in the right order are one character, and a half
that stands alone is none. -/
def joinUnits : List Nat → Option (List Char)
  | [] => some []
  | [unit] => if isHighHalf unit || isLowHalf unit then none else some [Char.ofNat unit]
  | unit :: next :: rest =>
    if isHighHalf unit then
      if isLowHalf next then do
        let chars ← joinUnits rest
        return Char.ofNat (0x10000 + (unit - 0xD800) * 0x400 + (next - 0xDC00)) :: chars
      else none
    else if isLowHalf unit then none
    else do
      let chars ← joinUnits (next :: rest)
      return Char.ofNat unit :: chars

/-- What follows a quoted text is shorter than what followed its opening quote. -/
theorem length_of_readUnits {input : List Char} {units : List Nat} {rest : List Char}
    (h : readUnits input = some (units, rest)) : rest.length < input.length := by
  fun_induction readUnits input generalizing units rest with
  | case1 => simp at h
  | case2 => simp_all
  | case3 a b c d tail ih =>
    simp only [bind, Option.bind_eq_some_iff, pure, Option.some.injEq, Prod.exists,
      Prod.mk.injEq] at h
    obtain ⟨_, _, _, _, hr, _, rfl⟩ := h
    have := ih hr
    simp only [List.length_cons]
    omega
  | case4 letter tail _ ih =>
    simp only [bind, Option.bind_eq_some_iff, pure, Option.some.injEq, Prod.exists,
      Prod.mk.injEq] at h
    obtain ⟨_, _, _, _, hr, _, rfl⟩ := h
    have := ih hr
    simp only [List.length_cons]
    omega
  | case5 => simp at h
  | case6 c tail _ _ _ _ ih =>
    simp only [bind, Option.bind_eq_some_iff, pure, Option.some.injEq, Prod.exists,
      Prod.mk.injEq] at h
    obtain ⟨_, _, hr, _, rfl⟩ := h
    have := ih hr
    simp only [List.length_cons]
    omega

/-! ### Numbers -/

/-- A number without a fraction and an exponent. The negative zero and the integers beyond
sixty-four bits are doubles. -/
def integerTree (negative : Bool) (whole : List Char) : Tree :=
  let n := natOfDigits whole
  if Tree.maxNatural < n then
    match Double.foldDecimal? negative whole [] 0 with
    | some value => .double value
    | none => .unreadable
  else if !negative then .natural n
  else if n = 0 ∨ -(n : Int) < Tree.minInt then .double (.ofRatio true n 1)
  else .int (-(n : Int))

/-- A fraction at the front: its digits, and what follows. No point is no fraction, and a point
needs a digit behind it. -/
def readFraction? : List Char → Option (Option (List Char) × List Char)
  | '.' :: rest =>
    let digits := rest.takeWhile Char.isDigit
    if digits.isEmpty then none else some (some digits, rest.dropWhile Char.isDigit)
  | rest => some (none, rest)

/-- An exponent at the front, and what follows. -/
def readPower? : List Char → Option (Option Int × List Char)
  | [] => some (none, [])
  | c :: rest =>
    if c = 'e' ∨ c = 'E' then
      let (negative, rest) := readSign rest
      let digits := rest.takeWhile Char.isDigit
      let n : Int := natOfDigits digits
      if digits.isEmpty then none
      else some (some (if negative then -n else n), rest.dropWhile Char.isDigit)
    else some (none, c :: rest)

/-- The tree for the parts of a number. -/
def numberTree (negative : Bool) (whole : List Char) (fraction : Option (List Char))
    (power : Option Int) : Tree :=
  if fraction.isNone && power.isNone then integerTree negative whole
  else
    match Double.foldDecimal? negative whole (fraction.getD []) (power.getD 0) with
    | some value => .double value
    | none => .unreadable

/-- A number without its sign at the front, and what follows. -/
def readMagnitude? (negative : Bool) (input : List Char) : Option (Tree × List Char) := do
  let whole := input.takeWhile Char.isDigit
  if whole.isEmpty || (whole.head? == some '0' && 1 < whole.length) then none
  else
    let (fraction, rest) ← readFraction? (input.dropWhile Char.isDigit)
    let (power, rest) ← readPower? rest
    return (numberTree negative whole fraction power, rest)

/-- A number at the front, and what follows. -/
def readNumber? : List Char → Option (Tree × List Char)
  | '-' :: rest => readMagnitude? true rest
  | input => readMagnitude? false input

/-! ### Tokens -/

/-- The blanks between tokens. -/
def isSpace (c : Char) : Bool :=
  c == ' ' || c == '\n' || c == '\t' || c == '\r'

/-- The token at the front of a text that starts with no blank, and what follows it. -/
def readToken? : List Char → Option (Token × List Char)
  | [] => none
  | '[' :: rest => some (.openList, rest)
  | ']' :: rest => some (.closeList, rest)
  | '\x7b' :: rest => some (.openTable, rest)
  | '\x7d' :: rest => some (.closeTable, rest)
  | ',' :: rest => some (.comma, rest)
  | ':' :: rest => some (.colon, rest)
  | '"' :: rest => do
    let (units, after) ← readUnits rest
    return (.quoted ((joinUnits units).map String.ofList), after)
  | 't' :: 'r' :: 'u' :: 'e' :: rest => some (.scalar (.bool true), rest)
  | 'f' :: 'a' :: 'l' :: 's' :: 'e' :: rest => some (.scalar (.bool false), rest)
  | 'n' :: 'u' :: 'l' :: 'l' :: rest => some (.scalar .null, rest)
  | input => (readNumber? input).map fun (value, rest) => (.scalar value, rest)

/-- What follows a fraction is no longer than the text. -/
theorem length_of_readFraction? {input : List Char} {fraction : Option (List Char)}
    {rest : List Char} (h : readFraction? input = some (fraction, rest)) :
    rest.length ≤ input.length := by
  unfold readFraction? at h
  split at h
  · simp only [Option.ite_none_left_eq_some, Option.some.injEq, Prod.mk.injEq] at h
    obtain ⟨_, _, rfl⟩ := h
    exact Nat.le_trans (length_dropWhile_le _ _) (by simp)
  · simp_all

/-- A sign and what follows it. -/
theorem length_readSign_le (input : List Char) : (readSign input).2.length ≤ input.length := by
  unfold readSign
  split <;> simp

/-- What follows an exponent is no longer than the text. -/
theorem length_of_readPower? {input : List Char} {power : Option Int} {rest : List Char}
    (h : readPower? input = some (power, rest)) : rest.length ≤ input.length := by
  unfold readPower? at h
  split at h
  · simp_all
  · split at h
    · simp only [Option.ite_none_left_eq_some, Option.some.injEq, Prod.mk.injEq] at h
      obtain ⟨_, _, rfl⟩ := h
      refine Nat.le_trans (length_dropWhile_le _ _) (Nat.le_trans (length_readSign_le _) (by simp))
    · simp_all

/-- What follows a number is shorter than the text. -/
theorem length_of_readMagnitude? {negative : Bool} {input : List Char} {value : Tree}
    {rest : List Char} (h : readMagnitude? negative input = some (value, rest)) :
    rest.length < input.length := by
  simp only [readMagnitude?, Option.ite_none_left_eq_some, bind, Option.bind_eq_some_iff,
    pure, Option.some.injEq, Prod.exists, Prod.mk.injEq, Bool.or_eq_true, not_or] at h
  obtain ⟨⟨digits, _⟩, _, _, hf, _, _, hp, _, rfl⟩ := h
  have := length_of_readFraction? hf
  have := length_of_readPower? hp
  have := length_dropWhile_lt (Bool.not_eq_true _ ▸ digits)
  omega

/-- What follows a signed number is shorter than the text. -/
theorem length_of_readNumber? {input : List Char} {value : Tree} {rest : List Char}
    (h : readNumber? input = some (value, rest)) : rest.length < input.length := by
  unfold readNumber? at h
  split at h
  · exact Nat.lt_succ_of_lt (length_of_readMagnitude? h)
  · exact length_of_readMagnitude? h

/-- What follows a token is shorter than the text. -/
theorem length_of_readToken? {input : List Char} {token : Token} {rest : List Char}
    (h : readToken? input = some (token, rest)) : rest.length < input.length := by
  unfold readToken? at h
  split at h
  case h_8 =>
    simp only [bind, Option.bind_eq_some_iff, pure, Option.some.injEq, Prod.exists,
      Prod.mk.injEq] at h
    obtain ⟨_, _, hr, _, rfl⟩ := h
    exact Nat.lt_succ_of_lt (length_of_readUnits hr)
  case h_12 =>
    simp only [Option.map_eq_some_iff, Prod.exists, Prod.mk.injEq] at h
    obtain ⟨_, _, hr, _, rfl⟩ := h
    exact length_of_readNumber? hr
  all_goals simp_all <;> (obtain ⟨_, rfl⟩ := h; omega)

/-- The tokens of a text. -/
def tokens? (input : List Char) : Option (List Token) :=
  match h : input.dropWhile isSpace with
  | [] => some []
  | first :: rest =>
    match ht : readToken? (first :: rest) with
    | none => none
    | some (token, after) =>
      have : after.length < input.length :=
        Nat.lt_of_lt_of_le (length_of_readToken? ht) (h ▸ length_dropWhile_le isSpace input)
      (tokens? after).map (token :: ·)
termination_by input.length

/-! ### Values -/

/-- How many lists and tables may stand inside each other. -/
def nestingLimit : Nat := 127

/-- A list or table that has this many others around it, if that is not too deep. -/
def nested (depth : Nat) (value : Tree) : Tree :=
  if depth < nestingLimit then value else .unreadable

/-- A table, if all of its names can be read. -/
def tableOf (entries : List (Option String × Tree)) : Tree :=
  match entries.mapM fun (name, value) => name.map (·, value) with
  | some entries => .table entries
  | none => .unreadable

mutual

/-- A value at the front, inside `depth` lists and tables, and what follows it. -/
def readValue (depth : Nat) : (input : List Token) → Option (Tree × Rest input)
  | .scalar value :: rest => some (value, .tail _ rest)
  | .quoted (some text) :: rest => some (.text text, .tail _ rest)
  | .quoted none :: rest => some (.unreadable, .tail _ rest)
  | .openList :: .closeList :: rest =>
    some (nested depth (.list []), ⟨rest, by simp only [List.length_cons]; omega⟩)
  | .openTable :: .closeTable :: rest =>
    some (nested depth (.table []), ⟨rest, by simp only [List.length_cons]; omega⟩)
  | .openList :: rest => do
    let (items, after) ← readItems (depth + 1) rest
    return (nested depth (.list items), after.ofLe (by simp))
  | .openTable :: rest => do
    let (entries, after) ← readEntries (depth + 1) rest
    return (nested depth (tableOf entries), after.ofLe (by simp))
  | _ => none
termination_by input => (input.length, 0)

/-- The items of a list up to its closing bracket, with a comma between two of them. -/
def readItems (depth : Nat) (input : List Token) : Option (List Tree × Rest input) := do
  let (item, rest) ← readValue depth input
  match rest with
  | ⟨.comma :: more, shorter⟩ =>
    have : more.length < input.length := Nat.lt_of_succ_lt shorter
    let (items, after) ← readItems depth more
    return (item :: items, (Rest.trans ⟨_, shorter⟩ (.tail _ more)).trans after)
  | ⟨.closeList :: after, shorter⟩ => return ([item], Rest.trans ⟨_, shorter⟩ (.tail _ after))
  | _ => none
termination_by (input.length, 1)

/-- The entries of a table up to its closing brace, with a comma between two of them. -/
def readEntries (depth : Nat) :
    (input : List Token) → Option (List (Option String × Tree) × Rest input)
  | .quoted name :: .colon :: input => do
    let (value, rest) ← readValue depth input
    match rest with
    | ⟨.comma :: more, shorter⟩ =>
      have : more.length < input.length := Nat.lt_of_succ_lt shorter
      let (entries, after) ← readEntries depth more
      let after := (Rest.trans ⟨_, shorter⟩ (.tail _ more)).trans after
      return ((name, value) :: entries, after.ofLe (by simp only [List.length_cons]; omega))
    | ⟨.closeTable :: after, shorter⟩ =>
      let after := Rest.trans ⟨_, shorter⟩ (.tail _ after)
      return ([(name, value)], after.ofLe (by simp only [List.length_cons]; omega))
    | _ => none
  | _ => none
termination_by input => (input.length, 0)

end

/-- The tree of a whole text. -/
def parse? (text : String) : Option Tree := do
  let tokens ← tokens? text.toList
  let (value, rest) ← readValue 0 tokens
  if rest.val.isEmpty then return value else none

end DartSource.Json
