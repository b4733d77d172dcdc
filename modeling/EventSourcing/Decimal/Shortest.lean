import EventSourcing.Decimal.Binary64

/-!
# The shortest decimal of a double precision number

The decimals that read back as a given number form an interval around it.
`Binary64.shortest` looks for a point of that interval on the grids of one,
two, … seventeen significant digits and takes the first grid that has one; of
two points the nearer is taken, and of two equally near ones the even.  On each
grid only the two neighbours of the number itself need to be tested.

`Binary64.jsonText` writes the digits out positionally while at most sixteen
places stand before the point and at most four zeros directly behind it, and
with a power of ten otherwise.
-/

namespace EventSourcing

/-- A decimal `digits * 10 ^ exponent`. -/
structure ShortDecimal where
  digits : Nat
  exponent : Int
deriving DecidableEq, Repr

namespace Binary64

/-- The numbers that read back as a double lie between two bounds; all three
are numerators over one denominator. -/
structure ReadingInterval where
  value : Nat
  lower : Nat
  upper : Nat
  denominator : Nat
  closed : Bool

/-- The interval of the numbers that round to a finite nonzero double. -/
def readingInterval (number : Binary64) : ReadingInterval :=
  let up := number.scale.toNat
  let below := if number.significand = Nat.pow 2 52 ∧ number.biasedExponent > 1 then 1 else 2
  { value := 4 * number.significand * Nat.pow 2 up
    lower := (4 * number.significand - below) * Nat.pow 2 up
    upper := (4 * number.significand + 2) * Nat.pow 2 up
    denominator := 4 * Nat.pow 2 (-number.scale).toNat
    closed := number.significand % 2 = 0 }

/-- The number of decimal digits of a natural number. -/
def digitCount (number : Nat) : Nat := (Nat.toDigits 10 number).length

/-- The position of the decimal point relative to the first significant digit:
the quotient lies in `[10 ^ (p - 1), 10 ^ p)`. -/
def pointPosition (numerator denominator : Nat) : Int :=
  if numerator ≥ denominator then digitCount (numerator / denominator)
  else
    match (List.range 400).find? fun zeros => numerator * Nat.pow 10 (zeros + 1) ≥ denominator with
    | some zeros => -(zeros : Int)
    | none => 0

/-- The best point of the interval on the grid of decimals with the given
exponent, if there is one. -/
def gridPoint? (interval : ReadingInterval) (exponent : Int) : Option Nat :=
  let unit := interval.denominator * Nat.pow 10 exponent.toNat
  let widen := Nat.pow 10 (-exponent).toNat
  let value := interval.value * widen
  let lower := interval.lower * widen
  let upper := interval.upper * widen
  let floor := value / unit
  let below := if interval.closed then lower ≤ floor * unit else lower < floor * unit
  let above := if interval.closed then (floor + 1) * unit ≤ upper else (floor + 1) * unit < upper
  let toFloor := value - floor * unit
  let toCeiling := (floor + 1) * unit - value
  if below ∧ above then
    if toFloor < toCeiling then some floor
    else if toCeiling < toFloor then some (floor + 1)
    else if floor % 2 = 0 then some floor
    else some (floor + 1)
  else if below then some floor
  else if above then some (floor + 1)
  else none

/-- Removes trailing zeros from the digits; `fuel` bounds their number. -/
def trimZeros : Nat → Nat → Int → ShortDecimal
  | 0, digits, exponent => ⟨digits, exponent⟩
  | fuel + 1, digits, exponent =>
    if digits ≠ 0 ∧ digits % 10 = 0 then trimZeros fuel (digits / 10) (exponent + 1)
    else ⟨digits, exponent⟩

/-- The shortest decimal that reads back as the magnitude of a finite number. -/
def shortest (number : Binary64) : ShortDecimal :=
  if number.significand = 0 then ⟨0, 0⟩
  else
    let interval := number.readingInterval
    let position := pointPosition interval.value interval.denominator
    let grids := (List.range 17).map fun count => position - (count + 1 : Nat)
    match grids.findSome? fun exponent =>
        (gridPoint? interval exponent).map fun digits => (digits, exponent) with
    | some (digits, exponent) => trimZeros 20 digits exponent
    | none => ⟨0, 0⟩

def zeros (count : Nat) : String := String.ofList (List.replicate count '0')

/-- Writes digits positionally, with at least one digit on each side of the
point. -/
def positional (decimal : ShortDecimal) : String :=
  let digits := Nat.toDigits 10 decimal.digits
  if decimal.exponent ≥ 0 then
    String.ofList digits ++ zeros decimal.exponent.toNat ++ ".0"
  else
    let position := (digits.length : Int) + decimal.exponent
    if position > 0 then
      String.ofList (digits.take position.toNat) ++ "." ++
        String.ofList (digits.drop position.toNat)
    else "0." ++ zeros (-position).toNat ++ String.ofList digits

/-- Writes digits with one digit before the point and a power of ten, whose
exponent has a sign. -/
def scientific (decimal : ShortDecimal) : String :=
  let digits := Nat.toDigits 10 decimal.digits
  let power := (digits.length : Int) + decimal.exponent - 1
  let fraction := digits.drop 1
  String.ofList (digits.take 1) ++
    (if fraction.isEmpty then "" else "." ++ String.ofList fraction) ++
    (if power < 0 then "e" else "e+") ++ toString power

def signText (number : Binary64) : String := if number.isNegative then "-" else ""

/-- The layout of numbers in documents: positional while at most sixteen
places stand before the point and at most four zeros directly behind it. -/
def jsonText (number : Binary64) : String :=
  let decimal := number.shortest
  let position := (digitCount decimal.digits : Int) + decimal.exponent
  number.signText ++
    if decimal.digits = 0 then "0.0"
    else if -5 < position ∧ position ≤ 16 then positional decimal
    else scientific decimal

example : (ofDecimal? false 15 (-1)).map jsonText = some "1.5" := by decide +kernel
example : (ofDecimal? false 18446744073709551616 0).map jsonText =
    some "1.8446744073709552e+19" := by decide +kernel
example : (ofDecimal? true 0 0).map jsonText = some "-0.0" := by decide +kernel
example : (ofDecimal? false 5 (-324)).map jsonText = some "5e-324" := by decide +kernel
example : (ofDecimal? false 1 (-5)).map jsonText = some "0.00001" := by decide +kernel
example : (ofDecimal? false 1 (-23)).map jsonText = some "1.0000000000000001e-23" := by
  decide +kernel

end Binary64

end EventSourcing
