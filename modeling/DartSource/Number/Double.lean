/-!
# Double-precision numbers

A double is its sixty-four bits: a sign, eleven bits of exponent and fifty-two of fraction. A
finite magnitude is `m * 2 ^ q` for the natural number and the exponent that `Double.scaled` gives,
and `roundRatio` goes the other way: it finds the magnitude nearest to a quotient of natural
numbers, a tie going to the even neighbour. Everything is exact arithmetic on `Nat`, so no step
depends on how a machine rounds.
-/

namespace DartSource

/-- A double-precision number, by its bits. -/
structure Double where
  /-- Sign, exponent and fraction, from the highest bit down. -/
  bits : UInt64
  deriving DecidableEq, Repr, Inhabited

namespace Double

/-- The weight of the sign bit. -/
def signWeight : Nat := Nat.pow 2 63

/-- The exponent field that marks infinities and values that are no number. -/
def exponentLimit : Nat := 2047

/-- The number of fractions. A magnitude with an exponent has this much above its fraction. -/
def fractionLimit : Nat := Nat.pow 2 52

/-- The magnitude bits of infinity. -/
def infinityBits : Nat := exponentLimit * fractionLimit

/-- The sign bit is set. -/
def isNegative (d : Double) : Bool :=
  signWeight ≤ d.bits.toNat

/-- The bits without the sign. Magnitudes are ordered as these numbers are. -/
def magnitude (d : Double) : Nat :=
  d.bits.toNat % signWeight

/-- No number at all. -/
def isNaN (d : Double) : Bool :=
  infinityBits < d.magnitude

/-- One of the two infinities. -/
def isInfinite (d : Double) : Bool :=
  d.magnitude = infinityBits

/-- One of the two zeros. -/
def isZero (d : Double) : Bool :=
  d.magnitude = 0

/-- The double with the given sign and magnitude bits. -/
def ofMagnitude (negative : Bool) (magnitude : Nat) : Double :=
  ⟨UInt64.ofNat ((if negative then signWeight else 0) + magnitude)⟩

/-- Infinity of the given sign. -/
def infinity (negative : Bool) : Double :=
  ofMagnitude negative infinityBits

/-- A value that is no number. -/
def nan : Double :=
  ofMagnitude false (infinityBits + fractionLimit / 2)

/-- The number and the exponent of two whose product is the finite magnitude with these bits. -/
def scaled (magnitude : Nat) : Nat × Int :=
  let exponent : Nat := magnitude / fractionLimit
  let fraction : Nat := magnitude % fractionLimit
  if exponent = 0 then (fraction, -1074) else (fractionLimit + fraction, (exponent : Int) - 1075)

/-- The finite magnitude with these bits as a quotient. -/
def ratio (magnitude : Nat) : Nat × Nat :=
  let (m, q) := scaled magnitude
  (m * Nat.pow 2 q.toNat, Nat.pow 2 (-q).toNat)

/-- A quotient rounded to the nearest natural number, a tie to the even one. -/
def roundDiv (num den : Nat) : Nat :=
  let quotient := num / den
  let twice := 2 * (num % den)
  if twice < den then quotient
  else if den < twice then quotient + 1
  else quotient + quotient % 2

/-- The exponent of two at which the quotient has fifty-three bits, or the least exponent if the
quotient is too small for that. -/
def roundingExponent (num den : Nat) : Int :=
  let guess := (num.log2 : Int) - (den.log2 : Int) - 53
  let exponent :=
    if 2 * fractionLimit ≤ num * Nat.pow 2 (-guess).toNat / (den * Nat.pow 2 guess.toNat) then
      guess + 1
    else guess
  max exponent (-1074)

/-- The magnitude bits nearest to `num / den`. A rounding that carries into the next power of two
moves the exponent field by itself, and a quotient beyond the range gives infinity. -/
def roundRatio (num den : Nat) : Nat :=
  if num = 0 then 0
  else
    let q := roundingExponent num den
    let m := roundDiv (num * Nat.pow 2 (-q).toNat) (den * Nat.pow 2 q.toNat)
    if m < fractionLimit then m
    else min infinityBits ((q + 1075).toNat * fractionLimit + (m - fractionLimit))

/-- The double nearest to a signed quotient. -/
def ofRatio (negative : Bool) (num den : Nat) : Double :=
  ofMagnitude negative (roundRatio num den)

/-- The double nearest to an integer. -/
def ofInt (i : Int) : Double :=
  ofRatio (decide (i < 0)) i.natAbs 1

/-- An exponent of ten that `digits * 10 ^ exponent` reaches: a bit more than three tenths of a
decimal place for every binary one. -/
def leastPlaces (digits : Nat) (exponent : Int) : Int :=
  digits.log2 * 30102 / 100000 + exponent

/-- An exponent of ten that `digits * 10 ^ exponent` stays below. -/
def mostPlaces (digits : Nat) (exponent : Int) : Int :=
  (digits.log2 + 1) * 30103 / 100000 + 1 + exponent

/-- The magnitude bits nearest to `digits * 10 ^ exponent`. Quotients outside the range are settled
by their number of places, so that no absurd power of ten is ever formed. -/
def roundDecimal (digits : Nat) (exponent : Int) : Nat :=
  if digits = 0 then 0
  else if 309 ≤ leastPlaces digits exponent then infinityBits
  else if mostPlaces digits exponent ≤ -330 then 0
  else roundRatio (digits * Nat.pow 10 exponent.toNat) (Nat.pow 10 (-exponent).toNat)

/-- The double nearest to a signed decimal. -/
def ofDecimal (negative : Bool) (digits : Nat) (exponent : Int) : Double :=
  ofMagnitude negative (roundDecimal digits exponent)

/-- Equality of numbers: the two zeros are equal, and what is no number equals nothing. -/
def numEq (a b : Double) : Bool :=
  !a.isNaN && !b.isNaN && (a == b || a.isZero && b.isZero)

end Double

end DartSource
