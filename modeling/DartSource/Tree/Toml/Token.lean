import DartSource.Number.Read
import DartSource.Tree.Basic

/-!
# Tokens of the table notation

The text is cut into marks, blanks, line ends, quoted texts and words. Blanks are kept, because a
header of rows must not have any between its brackets and because a point in time may have exactly
one inside. Comments are checked and dropped: a comment ends with its line, so whatever may stand
before it may stand before the line end that follows it.

Quoted texts come in four kinds: on one line or over several, with escapes or without. A text over
several lines loses a line end directly behind its opening quotes, and may end in one or two quotes
of its own before the three closing ones.
-/

namespace DartSource.Toml

/-- The words of the notation. -/
inductive Token where
  | dot
  | equals
  | comma
  | openBracket
  | closeBracket
  | openBrace
  | closeBrace
  | lineEnd
  /-- A run of blanks within a line. -/
  | blank (chars : List Char)
  /-- A quoted text on one line. -/
  | quoted (text : String)
  /-- A quoted text over several lines. -/
  | block (text : String)
  /-- A run of characters that are neither blanks nor marks. -/
  | word (chars : List Char)
  deriving DecidableEq, Repr, Inhabited

/-! ### Quoted texts -/

/-- A blank within a line. -/
def isBlankChar (c : Char) : Bool := c == ' ' || c == '\t'

/-- A character that may stand in comments and quoted texts: no control character but the tab. -/
def isPlain (c : Char) : Bool := c == '\t' || (0x20 ≤ c.toNat && c.toNat ≠ 0x7F)

/-- The character with the given number, if there is one. -/
def charOfNumber? (n : Nat) : Option Char :=
  if n.isValidChar then some (Char.ofNat n) else none

/-- A character that has an escape of one letter. -/
def letterEscape? : Char → Option Char
  | '"' => some '"'
  | '\\' => some '\\'
  | 'b' => some '\x08'
  | 'e' => some '\x1b'
  | 'f' => some '\x0c'
  | 'n' => some '\n'
  | 'r' => some '\r'
  | 't' => some '\t'
  | _ => none

/-- The number of hexadecimal digits behind the letter of a numeric escape. -/
def escapeWidth? : Char → Option Nat
  | 'x' => some 2
  | 'u' => some 4
  | 'U' => some 8
  | _ => none

/-- The escape behind a backslash at the front, and what follows. -/
def readEscape? : List Char → Option (Char × List Char)
  | [] => none
  | letter :: rest =>
    match escapeWidth? letter with
    | some width =>
      if rest.length < width then none
      else ((hexNumber? (rest.take width)).bind charOfNumber?).map (·, rest.drop width)
    | none => (letterEscape? letter).map (·, rest)

/-- What follows an escape is shorter. -/
theorem length_of_readEscape? {input : List Char} {c : Char} {rest : List Char}
    (h : readEscape? input = some (c, rest)) : rest.length < input.length := by
  unfold readEscape? at h
  split at h
  · simp at h
  · split at h
    · simp only [Option.ite_none_left_eq_some, Option.map_eq_some_iff, Prod.mk.injEq] at h
      obtain ⟨_, _, _, _, rfl⟩ := h
      simp only [List.length_drop, List.length_cons]
      omega
    · simp only [Option.map_eq_some_iff, Prod.mk.injEq] at h
      obtain ⟨_, _, _, rfl⟩ := h
      simp

/-- Characters in front of what was read from a text. -/
def withFront (front : List Char) (read : Option (List Char × List Char)) :
    Option (List Char × List Char) :=
  read.map fun piece => (front ++ piece.1, piece.2)

/-- Characters in front leave what follows as it is. -/
theorem exists_of_withFront {front chars rest : List Char}
    {read : Option (List Char × List Char)} (h : withFront front read = some (chars, rest)) :
    ∃ inner, read = some (inner, rest) := by
  simp only [withFront, Option.map_eq_some_iff, Prod.mk.injEq] at h
  obtain ⟨⟨inner, _⟩, hr, _, rfl⟩ := h
  exact ⟨inner, hr⟩

/-- A text on one line with escapes, up to its closing quote, and what follows. -/
def readBasic (input : List Char) : Option (List Char × List Char) :=
  match input with
  | [] => none
  | '"' :: rest => some ([], rest)
  | '\\' :: rest =>
    match h : readEscape? rest with
    | none => none
    | some (c, more) =>
      have : more.length < rest.length := length_of_readEscape? h
      withFront [c] (readBasic more)
  | c :: rest =>
    if isPlain c then withFront [c] (readBasic rest) else none
termination_by input.length

/-- A text on one line without escapes, up to its closing quote, and what follows. -/
def readLiteral : List Char → Option (List Char × List Char)
  | [] => none
  | c :: rest =>
    if c = '\x27' then some ([], rest)
    else if isPlain c then withFront [c] (readLiteral rest)
    else none

/-- A line end at the front of a text over several lines is no part of it. -/
def dropLineEnd : List Char → List Char
  | '\n' :: rest => rest
  | '\r' :: '\n' :: rest => rest
  | rest => rest

/-- The end of a text over several lines: the quotes of its own, and what follows the closing
quotes. -/
def readClosing? (quote : Char) (input : List Char) : Option (List Char × List Char) :=
  let count := (input.takeWhile (· == quote)).length
  if count < 3 then none
  else some (List.replicate (min count 5 - 3) quote, input.drop (min count 5))

/-- What follows closing quotes is shorter. -/
theorem length_of_readClosing? {quote : Char} {input chars rest : List Char}
    (h : readClosing? quote input = some (chars, rest)) : rest.length < input.length := by
  simp only [readClosing?, Option.ite_none_left_eq_some, Option.some.injEq, Prod.mk.injEq] at h
  obtain ⟨enough, _, rfl⟩ := h
  have : (input.takeWhile (· == quote)).length ≤ input.length :=
    (List.takeWhile_sublist _).length_le
  simp only [List.length_drop]
  omega

/-- A text over several lines without escapes, up to its closing quotes, and what follows. -/
def readLiteralBlock (input : List Char) : Option (List Char × List Char) :=
  match readClosing? '\x27' input with
  | some closing => some closing
  | none =>
    match input with
    | [] => none
    | '\r' :: '\n' :: rest =>
      withFront ['\r', '\n'] (readLiteralBlock rest)
    | c :: rest =>
      if isPlain c || c == '\n' then
        withFront [c] (readLiteralBlock rest)
      else none

/-- Where the reading of a text over several lines stands. -/
inductive Fold where
  /-- Characters are kept. -/
  | keep
  /-- Behind a backslash that is followed by a blank: the line has to end. -/
  | seek
  /-- Behind a line end that a backslash takes away: blanks and line ends are dropped. -/
  | skip
  deriving DecidableEq, Repr

/-- A text over several lines with escapes, up to its closing quotes, and what follows. A backslash
at the end of a line takes away the line end and all blanks and line ends behind it. -/
def readBasicBlock (fold : Fold) (input : List Char) : Option (List Char × List Char) :=
  match fold, input with
  | _, [] => none
  | .keep, '\r' :: '\n' :: rest =>
    withFront ['\r', '\n'] (readBasicBlock .keep rest)
  | _, '\r' :: '\n' :: rest => readBasicBlock .skip rest
  | .seek, c :: rest =>
    if isBlankChar c then readBasicBlock .seek rest
    else if c = '\n' then readBasicBlock .skip rest
    else none
  | fold, c :: rest =>
    if fold = .skip ∧ (isBlankChar c ∨ c = '\n') then readBasicBlock .skip rest
    else if c = '\\' then
      match h : readEscape? rest with
      | some (escaped, more) =>
        have : more.length < rest.length := length_of_readEscape? h
        withFront [escaped] (readBasicBlock .keep more)
      | none => readBasicBlock .seek rest
    else
      match readClosing? '"' (c :: rest) with
      | some closing => some closing
      | none =>
        if isPlain c || c == '\n' then
          withFront [c] (readBasicBlock .keep rest)
        else none
termination_by input.length

/-- What follows a text on one line with escapes is shorter. -/
theorem length_of_readBasic {input chars rest : List Char}
    (h : readBasic input = some (chars, rest)) : rest.length < input.length := by
  fun_induction readBasic input generalizing chars rest with
  | case1 | case3 | case6 => simp at h
  | case2 => simp_all
  | case4 rest' c more _ shorter ih =>
    obtain ⟨_, hr⟩ := exists_of_withFront h
    have := ih hr
    simp only [List.length_cons]
    omega
  | case5 c rest' _ _ _ ih =>
    obtain ⟨_, hr⟩ := exists_of_withFront h
    exact Nat.lt_succ_of_lt (ih hr)

/-- What follows a text on one line without escapes is shorter. -/
theorem length_of_readLiteral {input chars rest : List Char}
    (h : readLiteral input = some (chars, rest)) : rest.length < input.length := by
  fun_induction readLiteral input generalizing chars rest with
  | case1 | case4 => simp at h
  | case2 => simp_all
  | case3 c rest' _ _ ih =>
    obtain ⟨_, hr⟩ := exists_of_withFront h
    exact Nat.lt_succ_of_lt (ih hr)

/-- What follows a text over several lines without escapes is shorter. -/
theorem length_of_readLiteralBlock {input chars rest : List Char}
    (h : readLiteralBlock input = some (chars, rest)) : rest.length < input.length := by
  fun_induction readLiteralBlock input generalizing chars rest with
  | case1 input closing found => exact length_of_readClosing? (found.trans h)
  | case2 | case5 => simp at h
  | case3 rest' _ ih =>
    obtain ⟨_, hr⟩ := exists_of_withFront h
    exact Nat.lt_succ_of_lt (Nat.lt_succ_of_lt (ih hr))
  | case4 c rest' _ _ _ ih =>
    obtain ⟨_, hr⟩ := exists_of_withFront h
    exact Nat.lt_succ_of_lt (ih hr)

/-- What follows a text over several lines with escapes is shorter. -/
theorem length_of_readBasicBlock {fold : Fold} {input chars rest : List Char}
    (h : readBasicBlock fold input = some (chars, rest)) : rest.length < input.length := by
  fun_induction readBasicBlock fold input generalizing chars rest with
  | case1 | case6 | case12 => simp at h
  | case2 rest' ih =>
    obtain ⟨_, hr⟩ := exists_of_withFront h
    exact Nat.lt_succ_of_lt (Nat.lt_succ_of_lt (ih hr))
  | case3 _ rest' _ ih => exact Nat.lt_succ_of_lt (Nat.lt_succ_of_lt (ih h))
  | case4 _ _ _ _ ih => exact Nat.lt_succ_of_lt (ih h)
  | case5 _ _ _ ih => exact Nat.lt_succ_of_lt (ih h)
  | case7 _ _ _ _ _ _ _ ih => exact Nat.lt_succ_of_lt (ih h)
  | case8 _ _ _ _ _ _ shorter _ _ _ ih =>
    obtain ⟨_, hr⟩ := exists_of_withFront h
    exact Nat.lt_succ_of_lt (Nat.lt_trans (ih hr) shorter)
  | case9 _ _ _ _ _ _ _ ih => exact Nat.lt_succ_of_lt (ih h)
  | case10 _ _ _ _ _ _ _ _ _ found => exact length_of_readClosing? (found.trans h)
  | case11 _ _ _ _ _ _ _ _ _ _ ih =>
    obtain ⟨_, hr⟩ := exists_of_withFront h
    exact Nat.lt_succ_of_lt (ih hr)

/-! ### Tokens -/

/-- The marks of the notation that stand for themselves. -/
def mark? : Char → Option Token
  | '.' => some .dot
  | '=' => some .equals
  | ',' => some .comma
  | '[' => some .openBracket
  | ']' => some .closeBracket
  | '\x7b' => some .openBrace
  | '\x7d' => some .closeBrace
  | '\n' => some .lineEnd
  | _ => none

/-- A character of a word. -/
def isWordChar (c : Char) : Bool :=
  (mark? c).isNone && !isBlankChar c && c != '\r' && c != '#' && c != '"' && c != '\x27'

/-- A text on one line behind its opening quote. -/
def readLine (quote : Char) (input : List Char) : Option (List Char × List Char) :=
  if quote = '"' then readBasic input else readLiteral input

/-- A text over several lines behind its opening quotes. -/
def readBlock (quote : Char) (input : List Char) : Option (List Char × List Char) :=
  if quote = '"' then readBasicBlock .keep (dropLineEnd input)
  else readLiteralBlock (dropLineEnd input)

/-- A quoted text behind its first quote, and what follows. -/
def readQuoted? (quote : Char) (input : List Char) : Option (Token × List Char) :=
  if input.take 2 = [quote, quote] then
    (readBlock quote (input.drop 2)).map fun piece => (.block (String.ofList piece.1), piece.2)
  else (readLine quote input).map fun piece => (.quoted (String.ofList piece.1), piece.2)

/-- The token at the front, and what follows. -/
def readToken? : List Char → Option (Token × List Char)
  | [] => none
  | '\r' :: '\n' :: rest => some (.lineEnd, rest)
  | c :: rest =>
    match mark? c with
    | some token => some (token, rest)
    | none =>
      if c = '"' ∨ c = '\x27' then readQuoted? c rest
      else if isBlankChar c then
        some (.blank (c :: rest.takeWhile isBlankChar), rest.dropWhile isBlankChar)
      else if isWordChar c then
        some (.word (c :: rest.takeWhile isWordChar), rest.dropWhile isWordChar)
      else none

/-- A line end that is dropped leaves no more than there was. -/
theorem length_dropLineEnd_le (input : List Char) : (dropLineEnd input).length ≤ input.length := by
  unfold dropLineEnd
  split
  · simp
  · simp only [List.length_cons]
    omega
  · exact Nat.le_refl _

/-- What follows a text on one line is shorter. -/
theorem length_of_readLine {quote : Char} {input chars rest : List Char}
    (h : readLine quote input = some (chars, rest)) : rest.length < input.length := by
  unfold readLine at h
  split at h
  · exact length_of_readBasic h
  · exact length_of_readLiteral h

/-- What follows a text over several lines is shorter. -/
theorem length_of_readBlock {quote : Char} {input chars rest : List Char}
    (h : readBlock quote input = some (chars, rest)) : rest.length < input.length := by
  have trimmed := length_dropLineEnd_le input
  unfold readBlock at h
  split at h
  · exact Nat.lt_of_lt_of_le (length_of_readBasicBlock h) trimmed
  · exact Nat.lt_of_lt_of_le (length_of_readLiteralBlock h) trimmed

/-- What follows a quoted text is shorter than what followed its first quote. -/
theorem length_of_readQuoted? {quote : Char} {input : List Char} {token : Token}
    {rest : List Char} (h : readQuoted? quote input = some (token, rest)) :
    rest.length < input.length := by
  unfold readQuoted? at h
  split at h
  · simp only [Option.map_eq_some_iff, Prod.exists, Prod.mk.injEq] at h
    obtain ⟨_, _, hr, _, rfl⟩ := h
    have := length_of_readBlock hr
    simp only [List.length_drop] at this
    omega
  · simp only [Option.map_eq_some_iff, Prod.exists, Prod.mk.injEq] at h
    obtain ⟨_, _, hr, _, rfl⟩ := h
    exact length_of_readLine hr

/-- What follows a token is shorter than the text. -/
theorem length_of_readToken? {input : List Char} {token : Token} {rest : List Char}
    (h : readToken? input = some (token, rest)) : rest.length < input.length := by
  unfold readToken? at h
  split at h
  · simp at h
  · simp only [Option.some.injEq, Prod.mk.injEq] at h
    obtain ⟨_, rfl⟩ := h
    simp only [List.length_cons]
    omega
  · split at h
    · simp only [Option.some.injEq, Prod.mk.injEq] at h
      obtain ⟨_, rfl⟩ := h
      simp
    · split at h
      · exact Nat.lt_succ_of_lt (length_of_readQuoted? h)
      · split at h
        · simp only [Option.some.injEq, Prod.mk.injEq] at h
          obtain ⟨_, rfl⟩ := h
          exact Nat.lt_succ_of_le (length_dropWhile_le _ _)
        · simp only [Option.ite_none_right_eq_some, Option.some.injEq, Prod.mk.injEq] at h
          obtain ⟨_, _, rfl⟩ := h
          exact Nat.lt_succ_of_le (length_dropWhile_le _ _)

/-- A comment behind its mark: what follows it, if it holds no control character. -/
def dropComment? : List Char → Option (List Char)
  | [] => some []
  | '\n' :: rest => some ('\n' :: rest)
  | '\r' :: '\n' :: rest => some ('\n' :: rest)
  | c :: rest => if isPlain c then dropComment? rest else none

/-- What follows a comment is no longer than what followed its mark. -/
theorem length_of_dropComment? {input rest : List Char} (h : dropComment? input = some rest) :
    rest.length ≤ input.length := by
  fun_induction dropComment? input with
  | case1 | case2 => simp_all
  | case3 =>
    simp only [Option.some.injEq] at h
    subst h
    simp
  | case4 _ _ _ _ _ ih => exact Nat.le_succ_of_le (ih h)
  | case5 => simp at h

/-- The tokens of a text. -/
def tokens? (input : List Char) : Option (List Token) :=
  match input with
  | [] => some []
  | '#' :: rest =>
    match h : dropComment? rest with
    | none => none
    | some after =>
      have : after.length < ('#' :: rest).length := Nat.lt_succ_of_le (length_of_dropComment? h)
      tokens? after
  | c :: rest =>
    match h : readToken? (c :: rest) with
    | none => none
    | some (token, after) =>
      have : after.length < (c :: rest).length := length_of_readToken? h
      (tokens? after).map (token :: ·)
termination_by input.length
decreasing_by all_goals assumption

end DartSource.Toml
