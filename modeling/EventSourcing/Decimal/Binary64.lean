/-!
# Double precision numbers

A double precision number is its 64 bits.  A finite one has the magnitude
`significand * 2 ^ scale`, both read off the bits, so rounding into the format
and printing out of it need nothing but natural numbers.
-/

namespace EventSourcing

/-- A number of the 64-bit binary floating point format, kept as its bits. -/
structure Binary64 where
  bits : UInt64
deriving DecidableEq, Inhabited

namespace Binary64

def isNegative (number : Binary64) : Bool := number.bits >>> 63 == 1

def biasedExponent (number : Binary64) : Nat := ((number.bits >>> 52) &&& 0x7ff).toNat

/-- The fifty-two stored bits of the significand. -/
def storedFraction (number : Binary64) : Nat := (number.bits &&& 0xfffffffffffff).toNat

/-- The integer significand of a finite number. -/
def significand (number : Binary64) : Nat :=
  if number.biasedExponent = 0 then number.storedFraction
  else number.storedFraction + Nat.pow 2 52

/-- The power of two that scales the significand of a finite number. -/
def scale (number : Binary64) : Int :=
  if number.biasedExponent = 0 then -1074 else (number.biasedExponent : Int) - 1075

/-- Whether the magnitude is zero, whatever the sign. -/
def isZero (number : Binary64) : Bool := number.bits <<< 1 == 0

/-- Equality of values: the two zeros are one value. -/
def sameValue (first second : Binary64) : Bool :=
  first == second || (first.isZero && second.isZero)

/-- A quotient rounded to the nearest integer, a half going to the even
neighbour. -/
def roundHalfEven (numerator denominator : Nat) : Nat :=
  let quotient := numerator / denominator
  let remainder := numerator % denominator
  if 2 * remainder < denominator then quotient
  else if 2 * remainder > denominator then quotient + 1
  else if quotient % 2 = 0 then quotient
  else quotient + 1

/-- Packs sign, significand and scale; `none` beyond the greatest finite
magnitude. -/
def pack? (negative : Bool) (significand : Nat) (scale : Int) : Option Binary64 :=
  let sign : UInt64 := if negative then 0x8000000000000000 else 0
  let (significand, scale) :=
    if significand = Nat.pow 2 53 then (Nat.pow 2 52, scale + 1) else (significand, scale)
  if significand < Nat.pow 2 52 then some ⟨sign ||| significand.toUInt64⟩
  else
    let exponent := (scale + 1075).toNat
    if exponent ≥ 2047 then none
    else some ⟨sign ||| (exponent * Nat.pow 2 52 + (significand - Nat.pow 2 52)).toUInt64⟩

/-- The number nearest to a quotient of natural numbers, ties going to the
even significand; `none` when the quotient is too large for a finite number. -/
def ofRatio? (negative : Bool) (numerator denominator : Nat) : Option Binary64 :=
  let guess : Int := max ((numerator.log2 : Int) - denominator.log2 - 53) (-1074)
  let scaled (power : Int) : Nat × Nat :=
    (numerator * Nat.pow 2 (-power).toNat, denominator * Nat.pow 2 power.toNat)
  let power := if (scaled guess).1 / (scaled guess).2 ≥ Nat.pow 2 53 then guess + 1 else guess
  pack? negative (roundHalfEven (scaled power).1 (scaled power).2) power

/-- The magnitude of a finite number as a quotient of natural numbers. -/
def ratio (number : Binary64) : Nat × Nat :=
  (number.significand * Nat.pow 2 number.scale.toNat, Nat.pow 2 (-number.scale).toNat)

/-- The magnitude of a product, rounded; `none` when it is too large. -/
def times? (first second : Binary64) : Option Binary64 :=
  ofRatio? false (first.ratio.1 * second.ratio.1) (first.ratio.2 * second.ratio.2)

/-- The magnitude of a quotient, rounded; `none` when it is too large. -/
def over? (first second : Binary64) : Option Binary64 :=
  ofRatio? false (first.ratio.1 * second.ratio.2) (first.ratio.2 * second.ratio.1)

/-- The number nearest to a power of ten; `none` beyond the three hundred and
eighth power. -/
def powerOfTen? (exponent : Nat) : Option Binary64 :=
  if exponent ≤ 308 then ofRatio? false (Nat.pow 10 exponent) 1 else none

/-- A magnitude divided by a power of ten, each division rounded on its own:
the power is taken in steps of at most three hundred and eight places, and a
magnitude that has become zero stays so. -/
def lowered? (number : Binary64) (places : Nat) : Option Binary64 :=
  if places ≤ 308 then do number.over? (← powerOfTen? places)
  else if number.isZero then some number
  else do
    let next ← number.over? (← powerOfTen? 308)
    next.lowered? (places - 308)
termination_by places

def withSign (negative : Bool) (number : Binary64) : Binary64 :=
  if negative then ⟨number.bits ||| 0x8000000000000000⟩ else number

/-- The number read from `digits * 10 ^ exponent`: the digits are rounded into
the format first and then scaled by a rounded power of ten, so the last bit may
differ from that of the nearest number.  `none` when the number is too large. -/
def ofDecimal? (negative : Bool) (digits : Nat) (exponent : Int) : Option Binary64 := do
  let rounded ← ofRatio? false digits 1
  let magnitude ←
    if exponent < 0 then rounded.lowered? exponent.natAbs
    else if digits = 0 then some rounded
    else do rounded.times? (← powerOfTen? exponent.toNat)
  return magnitude.withSign negative

def ofInt (value : Int) : Binary64 :=
  (ofRatio? (value < 0) value.natAbs 1).getD ⟨0⟩

end Binary64

end EventSourcing
