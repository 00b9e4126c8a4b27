import Parlance.Number.Binary

/-!
# Shortest decimals

Among the decimals that read back as a given number, the shortest ones have the fewest digits, and
of these the one nearest to the number is chosen, the greater one if two are equally near.

The decimals that read back fill the interval between the midpoints to the two neighbouring
numbers. The midpoints themselves belong to it if the significand is even.
-/

namespace Parlance

/-- The number `digits * 10 ^ exponent`. -/
structure Decimal where
  digits : Nat
  exponent : Int
  deriving Repr, DecidableEq

namespace Decimal

/-- The decimals that read back, in quarters of the number's last binary place: the number, the
lower and the upper midpoint, and whether these belong to the interval. -/
structure Interval where
  number : Nat
  low : Nat
  high : Nat
  closed : Bool
  deriving Repr, DecidableEq

/-- The interval of a positive number. Below a power of two the neighbour is nearer. -/
def Interval.of (binary : Binary) : Interval :=
  let narrow :=
    binary.significand == Binary.unit && decide (Binary.leastExponent < binary.exponent)
  { number := 4 * binary.significand
    low := 4 * binary.significand - (if narrow then 1 else 2)
    high := 4 * binary.significand + 2
    closed := binary.significand % 2 == 0 }

/-- Whether `digits * divisor / scale` lies in the interval. -/
def Interval.holds (interval : Interval) (scale divisor digits : Nat) : Bool :=
  let value := digits * divisor
  if interval.closed then
    decide (interval.low * scale ≤ value) && decide (value ≤ interval.high * scale)
  else decide (interval.low * scale < value) && decide (value < interval.high * scale)

/-- The decimal with this exponent that is in the interval and nearest to the number, if there is
one. It is one of the two decimals next to the number. -/
def onGrid? (binary : Binary) (interval : Interval) (exponent : Int) : Option Decimal :=
  let quarter := binary.exponent - 2
  let scale := Nat.pow 2 quarter.toNat * Nat.pow 10 (-exponent).toNat
  let divisor := Nat.pow 2 (-quarter).toNat * Nat.pow 10 exponent.toNat
  let value := interval.number * scale
  let below := value / divisor
  let lower := 0 < below && interval.holds scale divisor below
  let upper := interval.holds scale divisor (below + 1)
  if lower && (!upper || decide (2 * value < (2 * below + 1) * divisor)) then
    some ⟨below, exponent⟩
  else if upper then some ⟨below + 1, exponent⟩
  else none

/-- The first decimal found on grids that grow finer from the given exponent on. -/
def search (binary : Binary) (interval : Interval) : (fuel : Nat) → (exponent : Int) → Decimal
  | 0, exponent => ⟨0, exponent⟩
  | fuel + 1, exponent =>
      match onGrid? binary interval exponent with
      | some decimal => decimal
      | none => search binary interval fuel (exponent - 1)

/-- The number of decimal digits of a whole number. -/
def digitCount (number : Nat) : Nat := (Nat.toDigits 10 number).length

/-- An exponent such that no decimal with it, or a greater one, has more than one digit and is less
than the number. -/
def firstExponent (binary : Binary) : Int :=
  if 0 ≤ binary.exponent then
    digitCount (binary.significand * Nat.pow 2 binary.exponent.toNat)
  else
    let scale := Nat.pow 2 (-binary.exponent).toNat
    if scale ≤ binary.significand then digitCount (binary.significand / scale)
    else 1 - (digitCount (scale / binary.significand) : Int)

/-- The shortest decimal that reads back as a positive number. Seventeen digits always suffice. -/
def shortest (binary : Binary) : Decimal :=
  search binary (.of binary) 20 (firstExponent binary)

/-- The decimal written without an exponent. -/
def positional (decimal : Decimal) : List Char :=
  let digits := Nat.toDigits 10 decimal.digits
  if 0 ≤ decimal.exponent then digits ++ List.replicate decimal.exponent.toNat '0'
  else
    let places := (-decimal.exponent).toNat
    if places < digits.length then
      digits.take (digits.length - places) ++ '.' :: digits.drop (digits.length - places)
    else '0' :: '.' :: List.replicate (places - digits.length) '0' ++ digits

/-- The number nearest to the decimal. An exponent far outside the range of numbers is settled
without computing its power. -/
def toFloat (decimal : Decimal) : Float :=
  if decimal.digits = 0 then 0
  else
    let magnitude := (digitCount decimal.digits : Int) + decimal.exponent
    if 400 < magnitude then Binary.infinity
    else if magnitude < -400 then 0
    else
      Binary.nearest (decimal.digits * Nat.pow 10 decimal.exponent.toNat)
        (Nat.pow 10 (-decimal.exponent).toNat)

end Decimal

end Parlance
