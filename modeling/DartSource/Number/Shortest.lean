import DartSource.Number.Double

/-!
# The shortest decimal of a double

A double is written with the fewest digits that read back to it. For one digit, then two, and so on
up to seventeen, the two neighbours of the value on the decimal grid are tried, and the first grid
on which a neighbour reads back wins. If both do, the nearer one is taken, and a value halfway
between them takes the greater.

`Double.text` lays the digits out: positionally while the leading digit stands between the fourth
place after the point and the sixteenth before it, with an exponent otherwise, and always so that
the text cannot be mistaken for an integer.
-/

namespace DartSource

/-- The number `digits * 10 ^ exponent`. -/
structure Decimal where
  digits : Nat
  exponent : Int
  deriving DecidableEq, Repr, Inhabited

namespace Decimal

/-- The decimal without trailing zeros; at most `fuel` of them are removed. -/
def strip (fuel : Nat) (d : Decimal) : Decimal :=
  match fuel with
  | 0 => d
  | n + 1 =>
    if d.digits ≠ 0 ∧ d.digits % 10 = 0 then strip n ⟨d.digits / 10, d.exponent + 1⟩ else d

/-- The place of the leading digit of a positive quotient: the `k` with
`10 ^ (k - 1) ≤ num / den < 10 ^ k`. -/
def leadingPlace (num den : Nat) : Int :=
  if den ≤ num then ((Nat.toDigits 10 (num / den)).length : Int)
  else
    match (List.range 400).find? fun j => den ≤ num * Nat.pow 10 j with
    | some j => 1 - (j : Int)
    | none => -400

/-- The nearest decimal with so many digits that reads back to the magnitude, if one of the value's
two neighbours on that grid does. -/
def onGrid? (magnitude : Nat) (count : Nat) : Option Decimal :=
  let (num, den) := Double.ratio magnitude
  let exponent := leadingPlace num den - (count : Int)
  let scaledNum := num * Nat.pow 10 (-exponent).toNat
  let scaledDen := den * Nat.pow 10 exponent.toNat
  let below : Decimal := ⟨scaledNum / scaledDen, exponent⟩
  let above : Decimal := ⟨below.digits + 1, exponent⟩
  let readsBack (d : Decimal) : Bool :=
    d.digits ≠ 0 && Double.roundDecimal d.digits d.exponent == magnitude
  match readsBack below, readsBack above with
  | true, true => if 2 * (scaledNum % scaledDen) < scaledDen then some below else some above
  | true, false => some below
  | false, true => some above
  | false, false => none

/-- The shortest decimal that reads back to a finite magnitude other than zero. Seventeen digits
always suffice. -/
def shortest (magnitude : Nat) : Decimal :=
  match (List.range 17).findSome? fun n => onGrid? magnitude (n + 1) with
  | some d => d.strip 20
  | none => ⟨0, 0⟩

/-- The least place of a leading digit that is still written positionally. -/
def leastPositional : Int := -4

/-- The greatest place of a leading digit that is still written positionally. -/
def greatestPositional : Int := 15

/-- The digits laid out: positionally with at least one digit on either side of the point, or one
digit before the point and an exponent. -/
def layout (d : Decimal) : String :=
  let digits := Nat.toDigits 10 d.digits
  let lead : Int := (digits.length : Int) - 1 + d.exponent
  if lead < leastPositional ∨ greatestPositional < lead then
    let tail := digits.drop 1
    String.ofList (digits.take 1 ++ (if tail.isEmpty then [] else '.' :: tail)) ++ "e" ++
      toString lead
  else if lead < 0 then
    "0." ++ String.ofList (List.replicate (-lead - 1).toNat '0' ++ digits)
  else
    let whole := (digits ++ List.replicate d.exponent.toNat '0').take (lead.toNat + 1)
    let part := digits.drop (lead.toNat + 1)
    String.ofList (whole ++ '.' :: (if part.isEmpty then ['0'] else part))

end Decimal

/-- The text of a finite double. -/
def Double.text (d : Double) : String :=
  let body := if d.isZero then "0.0" else (Decimal.shortest d.magnitude).layout
  if d.isNegative then "-" ++ body else body

end DartSource
