import DartSource.Number.Read
import DartSource.Tree.Basic

/-!
# Unquoted scalars of the table notation

Truth values, integers in four radices, decimals and points in time. Digits may be grouped by
single underscores, and an underscore may follow a sign. Integers beyond sixty-four bits are kept
apart up to a hundred and twenty-eight bits. Spelling is checked at once, but what a number denotes
only when somebody looks at it: a number beyond the range, a radix without digits and a group with
characters that are no decimal digits are `undefined`.

A point in time denotes a table with a single entry of a reserved name. Its text is written in one
way only: a capital `T` between date and time, seconds, no zeros at the end of a fraction, a signed
offset.
-/

namespace DartSource.Toml

/-! ### Numbers -/

/-- A hexadecimal digit. -/
def isHexDigit (c : Char) : Bool := (hexDigit? c).isSome

/-- Every underscore stands between two digits, or at the front. -/
def isGrouped (isDigit : Char → Bool) : List Char → Bool
  | [] => true
  | ['_'] => false
  | '_' :: c :: rest => isDigit c && isGrouped isDigit (c :: rest)
  | c :: '_' :: rest => isDigit c && isGrouped isDigit ('_' :: rest)
  | _ :: rest => isGrouped isDigit rest

/-- What follows the sign of a number, with its sign. Only behind a sign may there be an underscore
at the front. -/
def readNumber? (isDigit : Char → Bool) (text : List Char) : Option (Bool × List Char) :=
  let (negative, body) := readSign text
  if text.head? = some '_' ∨ !isGrouped isDigit body then none else some (negative, body)

/-- The tree for an integer. -/
def integerTree (value : Int) : Tree :=
  if Tree.minInt ≤ value ∧ value ≤ Tree.maxInt then .int value
  else if 0 ≤ value ∧ value ≤ Tree.maxNatural then .natural value.toNat
  else if -(Nat.pow 2 127 : Int) ≤ value ∧ value < (Nat.pow 2 128 : Int) then .unreadable
  else .undefined

/-- The number that a digit denotes in a radix. -/
def digitIn? (radix : Nat) (c : Char) : Option Nat :=
  (hexDigit? c).filter (· < radix)

/-- An integer in the given radix, behind the letter of the radix. -/
def radixInteger? (radix : Nat) (text : List Char) : Option Tree := do
  let isDigit := fun c => (digitIn? radix c).isSome
  if text.head? = some '_' ∨ !isGrouped isDigit text then none
  else
    let digits ← (text.filter (· != '_')).mapM (digitIn? radix)
    if digits.isEmpty then return .undefined
    else return integerTree (digits.foldl (fun n digit => radix * n + digit) 0 : Nat)

/-- A zero in front of further characters. -/
def hasLeadingZero : List Char → Bool
  | '0' :: _ :: _ => true
  | _ => false

/-- A character by which a decimal differs from an integer. -/
def isDecimalMark (c : Char) : Bool := c == '.' || c == 'e' || c == 'E'

/-- Digits, or groups behind the first underscore, which need not hold decimal digits only. -/
def isDecimalInteger (body : List Char) : Bool :=
  match body.dropWhile Char.isDigit with
  | [] => !body.isEmpty
  | c :: rest => c == '_' && !rest.any isDecimalMark

/-- An integer in decimal digits. -/
def decimalInteger? (text : List Char) : Option Tree := do
  let (negative, body) ← readNumber? isHexDigit text
  if hasLeadingZero body || !isDecimalInteger body then none
  else
    let digits := body.filter (· != '_')
    let value : Int := natOfDigits digits
    return if digits.all Char.isDigit then integerTree (if negative then -value else value)
      else .undefined

/-- An integer. Only decimal ones have a sign. -/
def integer? : List Char → Option Tree
  | '0' :: 'x' :: digits => radixInteger? 16 digits
  | '0' :: 'o' :: digits => radixInteger? 8 digits
  | '0' :: 'b' :: digits => radixInteger? 2 digits
  | text => decimalInteger? text

/-- A character of a grouped run of digits. -/
def isRunChar (c : Char) : Bool := c.isDigit || c == '_'

/-- A run of digits at the front, which must have one, and what follows. -/
def readRun? (text : List Char) : Option (List Char × List Char) :=
  let digits := (text.takeWhile isRunChar).filter Char.isDigit
  if digits.isEmpty then none else some (digits, text.dropWhile isRunChar)

/-- The fraction of a decimal, if there is one, and what follows. -/
def readFraction? : List Char → Option (Option (List Char) × List Char)
  | '.' :: rest => (readRun? rest).map fun (digits, rest) => (some digits, rest)
  | rest => some (none, rest)

/-- The exponent at the end of a decimal, if there is one. -/
def exponent? : List Char → Option (Option Int)
  | [] => some none
  | c :: rest =>
    if c = 'e' ∨ c = 'E' then
      let (negative, rest) := readSign rest
      match readRun? rest with
      | some (digits, []) =>
        let n : Int := natOfDigits digits
        some (some (if negative then -n else n))
      | _ => none
    else none

/-- The tree for a decimal. -/
def decimalTree (value : Double) : Tree :=
  if value.isInfinite then .undefined else .double value

/-- A decimal with a fraction or an exponent, or one of the two words. -/
def decimal? (text : List Char) : Option Tree := do
  let (negative, body) ← readNumber? Char.isDigit text
  if body = ['i', 'n', 'f'] then return .double (.infinity negative)
  if body = ['n', 'a', 'n'] then return .double .nan
  let (whole, rest) ← readRun? body
  let (fraction, rest) ← readFraction? rest
  let exponent ← exponent? rest
  if (body.head? == some '0' && 1 < whole.length) || (fraction.isNone && exponent.isNone) then none
  else
    let digits := fraction.getD []
    return decimalTree (.ofDecimal negative (natOfDigits (whole ++ digits))
      (exponent.getD 0 - digits.length))

/-! ### Points in time -/

/-- The reserved name under which a point in time is kept. -/
def momentName : String := "$__toml_private_datetime"

/-- The number of exactly two digits, within bounds. -/
def twoDigits? (low high : Nat) (a b : Char) : Option Nat :=
  let n := natOfDigits [a, b]
  if a.isDigit && b.isDigit && low ≤ n && n ≤ high then some n else none

/-- The number of days in a month. -/
def daysIn (year month : Nat) : Nat :=
  if month = 2 then
    if year % 4 = 0 ∧ (year % 100 ≠ 0 ∨ year % 400 = 0) then 29 else 28
  else if month = 4 ∨ month = 6 ∨ month = 9 ∨ month = 11 then 30
  else 31

/-- A date at the front, and what follows. -/
def readDate? : List Char → Option (List Char × List Char)
  | y₁ :: y₂ :: y₃ :: y₄ :: '-' :: m₁ :: m₂ :: '-' :: d₁ :: d₂ :: rest => do
    if !([y₁, y₂, y₃, y₄].all Char.isDigit) then none
    else
      let month ← twoDigits? 1 12 m₁ m₂
      let _ ← twoDigits? 1 (daysIn (natOfDigits [y₁, y₂, y₃, y₄]) month) d₁ d₂
      return ([y₁, y₂, y₃, y₄, '-', m₁, m₂, '-', d₁, d₂], rest)
  | _ => none

/-- The fraction of a second at the front, as it is written back, and what follows. Nine digits
count. -/
def readSubsecond? : List Char → Option (List Char × List Char)
  | '.' :: rest =>
    let digits := rest.takeWhile Char.isDigit
    let kept := ((digits.take 9).reverse.dropWhile (· == '0')).reverse
    if digits.isEmpty then none
    else some (if kept.isEmpty then [] else '.' :: kept, rest.dropWhile Char.isDigit)
  | rest => some ([], rest)

/-- A time at the front, as it is written back, and what follows. Seconds may be left out. -/
def readTime? : List Char → Option (List Char × List Char)
  | h₁ :: h₂ :: ':' :: m₁ :: m₂ :: ':' :: s₁ :: s₂ :: rest => do
    let _ ← twoDigits? 0 23 h₁ h₂
    let _ ← twoDigits? 0 59 m₁ m₂
    let _ ← twoDigits? 0 60 s₁ s₂
    let (fraction, rest) ← readSubsecond? rest
    return ([h₁, h₂, ':', m₁, m₂, ':', s₁, s₂] ++ fraction, rest)
  | h₁ :: h₂ :: ':' :: m₁ :: m₂ :: rest => do
    let _ ← twoDigits? 0 23 h₁ h₂
    let _ ← twoDigits? 0 59 m₁ m₂
    return ([h₁, h₂, ':', m₁, m₂, ':', '0', '0'], rest)
  | _ => none

/-- Two digits of a number below a hundred. -/
def padTwo (n : Nat) : List Char :=
  [Char.ofNat ('0'.toNat + n / 10), Char.ofNat ('0'.toNat + n % 10)]

/-- The offset at the end of a point in time, as it is written back. -/
def offset? : List Char → Option (List Char)
  | [] => some []
  | [c] => if c = 'Z' ∨ c = 'z' then some ['Z'] else none
  | [sign, h₁, h₂, ':', m₁, m₂] => do
    let hours ← twoDigits? 0 23 h₁ h₂
    let minutes ← twoDigits? 0 59 m₁ m₂
    if sign = '+' ∨ (sign = '-' ∧ hours + minutes = 0) then
      return '+' :: (padTwo hours ++ ':' :: padTwo minutes)
    else if sign = '-' then return '-' :: (padTwo hours ++ ':' :: padTwo minutes)
    else none
  | _ => none

/-- A character that may separate date and time. -/
def isTimeMark (c : Char) : Bool := c == 'T' || c == 't' || c == ' '

/-- A point in time, a date or a time of day, as it is written back. -/
def moment? (text : List Char) : Option (List Char) :=
  match readDate? text with
  | some (date, []) => some date
  | some (date, mark :: rest) =>
    if isTimeMark mark then do
      let (time, rest) ← readTime? rest
      let offset ← offset? rest
      return date ++ 'T' :: (time ++ offset)
    else none
  | none =>
    match readTime? text with
    | some (time, []) => some time
    | _ => none

/-! ### All of them -/

/-- The tree for a point in time. -/
def momentTree (chars : List Char) : Tree :=
  .table [(momentName, .text (String.ofList chars))]

/-- The tree for an unquoted scalar. -/
def scalar? (text : List Char) : Option Tree :=
  if text = ['t', 'r', 'u', 'e'] then some (.bool true)
  else if text = ['f', 'a', 'l', 's', 'e'] then some (.bool false)
  else integer? text <|> decimal? text <|> (moment? text).map momentTree

end DartSource.Toml
