import DartSource.Number.Double

/-!
# Reading decimal numbers

Two readings of a decimal live here, because the two description formats round differently.

* `readDecimal?` reads a whole text and gives the nearest double, whatever the number of digits.
* `foldDecimal?` keeps only as many digits as fit sixty-four bits and then scales by one power of
  ten in double arithmetic. The first rounding, of the digits, and the second, of the scaling, may
  leave the result one step away from the nearest double. A number beyond the range is refused.
-/

namespace DartSource

/-- The value of decimal digits, most significant first. -/
def natOfDigits (digits : List Char) : Nat :=
  digits.foldl (fun n c => 10 * n + (c.toNat - '0'.toNat)) 0

/-- The value of a hexadecimal digit. -/
def hexDigit? (c : Char) : Option Nat :=
  if c.isDigit then some (c.toNat - '0'.toNat)
  else if 'a' ≤ c ∧ c ≤ 'f' then some (c.toNat - 'a'.toNat + 10)
  else if 'A' ≤ c ∧ c ≤ 'F' then some (c.toNat - 'A'.toNat + 10)
  else none

/-- The number that hexadecimal digits denote. -/
def hexNumber? (digits : List Char) : Option Nat :=
  digits.foldlM (fun n c => (hexDigit? c).map (16 * n + ·)) 0

/-- A leading sign, and what follows it. -/
def readSign : List Char → Bool × List Char
  | '-' :: rest => (true, rest)
  | '+' :: rest => (false, rest)
  | rest => (false, rest)

namespace Double

/-- The exponent part at the end of a decimal: nothing, or `e` with a signed run of digits. -/
def readExponent? : List Char → Option Int
  | [] => some 0
  | c :: rest =>
    if c = 'e' ∨ c = 'E' then
      let (negative, digits) := readSign rest
      if digits.isEmpty || !digits.all Char.isDigit then none
      else
        let n : Int := natOfDigits digits
        some (if negative then -n else n)
    else none

/-- The double nearest to a decimal text. Digits may be missing on one side of the point, and the
words for infinity and for no number are read in either case of letters. -/
def readDecimal? (text : List Char) : Option Double :=
  let (negative, rest) := readSign text
  let word := String.ofList (rest.map Char.toLower)
  if word = "inf" ∨ word = "infinity" then some (infinity negative)
  else if word = "nan" then some nan
  else
    let whole := rest.takeWhile Char.isDigit
    let rest := rest.dropWhile Char.isDigit
    let (part, rest) :=
      match rest with
      | '.' :: after => (after.takeWhile Char.isDigit, after.dropWhile Char.isDigit)
      | _ => ([], rest)
    if whole.isEmpty && part.isEmpty then none
    else do
      let exponent ← readExponent? rest
      return ofDecimal negative (natOfDigits (whole ++ part)) (exponent - part.length)

/-- The least number that no longer fits the digits kept by `keepDigits`. -/
def keepLimit : Nat := Nat.pow 2 64

/-- Adds digits to a number while the result fits sixty-four bits: the number, and how many digits
were left over from the first that did not fit. -/
def keepDigits (n : Nat) : List Char → Nat × Nat
  | [] => (n, 0)
  | c :: rest =>
    let next := 10 * n + (c.toNat - '0'.toNat)
    if next < keepLimit then keepDigits next rest else (n, rest.length + 1)

/-- The magnitude bits of a product or quotient with a power of ten that is itself a double. -/
def scaleByTen (magnitude : Nat) (exponent : Int) : Nat :=
  let (num, den) := ratio magnitude
  let (powNum, powDen) := ratio (roundDecimal 1 exponent.natAbs)
  if 0 ≤ exponent then roundRatio (num * powNum) (den * powDen)
  else roundRatio (num * powDen) (den * powNum)

/-- Scales by a power of ten, in steps of `10 ^ 308` when the power is too small for one step. A
result beyond the range is refused; one below it is zero. -/
def foldScale? (fuel : Nat) (magnitude : Nat) (exponent : Int) : Option Nat :=
  match fuel with
  | 0 => some 0
  | n + 1 =>
    if magnitude = 0 then some 0
    else if exponent.natAbs ≤ 308 then
      let result := scaleByTen magnitude exponent
      if result = infinityBits then none else some result
    else if 0 ≤ exponent then none
    else foldScale? n (scaleByTen magnitude (-308)) (exponent + 308)

/-- The double for digits, digits after the point and an exponent, with both roundings. Digits
after the first that does not fit are dropped; those before the point count towards the exponent. -/
def foldDecimal? (negative : Bool) (whole part : List Char) (exponent : Int) : Option Double :=
  let (n, dropped) := keepDigits 0 whole
  let (n, skipped) := keepDigits n part
  let shift : Int := dropped - (part.length - skipped : Nat)
  (foldScale? 4 (roundRatio n 1) (shift + exponent)).map (ofMagnitude negative)

end Double

end DartSource
