/-!
# Numbers as significand and exponent

A finite number is a whole significand times a power of two, with a sign. `Binary.ofFloat` takes a
number apart, and `Binary.nearest` puts the number together that is nearest to a quotient of two
whole numbers; of two that are equally near, the one with the even significand.
-/

namespace Parlance

/-- The number `significand * 2 ^ exponent`, negated if `negative`. -/
structure Binary where
  negative : Bool
  significand : Nat
  exponent : Int
  deriving Repr, DecidableEq

namespace Binary

/-- The least significand of a number that is not subnormal. -/
def unit : Nat := Nat.pow 2 52

/-- The least exponent. -/
def leastExponent : Int := -1074

/-- The greatest exponent of a finite number. -/
def greatestExponent : Int := 971

/-- The parts of a finite number. For infinities and for what is not a number they mean nothing. -/
def ofFloat (number : Float) : Binary :=
  let bits := number.toBits.toNat
  let fraction := bits % unit
  let field := bits / unit % 2048
  let negative := decide (Nat.pow 2 63 ≤ bits)
  if field = 0 then ⟨negative, fraction, leastExponent⟩
  else ⟨negative, unit + fraction, (field : Int) - 1075⟩

/-- Whether the number is finite. -/
def isFinite (number : Float) : Bool :=
  number.toBits.toNat / unit % 2048 != 2047

/-- Whether the number carries a minus sign; zero can carry one. -/
def isNegative (number : Float) : Bool :=
  decide (Nat.pow 2 63 ≤ number.toBits.toNat)

/-- The infinity above all numbers. -/
def infinity : Float := Float.ofBits 0x7FF0000000000000

/-- The result of undefined operations. -/
def undefinedResult : Float := Float.ofBits 0x7FF8000000000000

/-- The quotient rounded to the nearest whole number, and to the even one of two. -/
def roundQuotient (numerator denominator : Nat) : Nat :=
  let quotient := numerator / denominator
  let rest := numerator % denominator
  if 2 * rest < denominator then quotient
  else if denominator < 2 * rest then quotient + 1
  else quotient + quotient % 2

/-- A numerator and a denominator for the quotient divided by a power of two. -/
def scaleDown (numerator denominator : Nat) (exponent : Int) : Nat × Nat :=
  (numerator <<< (-exponent).toNat, denominator <<< exponent.toNat)

/-- The exponent of the number nearest to the quotient, before rounding. -/
def exponentFor (numerator denominator : Nat) : Int :=
  let guess := (numerator.log2 : Int) - denominator.log2 - 53
  let (scaled, divisor) := scaleDown numerator denominator guess
  max leastExponent (if scaled < 2 * unit * divisor then guess else guess + 1)

/-- The number that is nearest to the quotient; beyond the greatest finite number, infinity. -/
def nearest (numerator denominator : Nat) : Float :=
  if numerator = 0 then 0
  else
    let exponent := exponentFor numerator denominator
    let (scaled, divisor) := scaleDown numerator denominator exponent
    let rounded := roundQuotient scaled divisor
    let (significand, exponent) :=
      if rounded = 2 * unit then (unit, exponent + 1) else (rounded, exponent)
    if greatestExponent < exponent then infinity
    else if significand < unit then Float.ofBits significand.toUInt64
    else
      Float.ofBits (((exponent + 1075).toNat * unit + (significand - unit)).toUInt64)

/-- The number with these parts, rounded to the nearest. -/
def toFloat (binary : Binary) : Float :=
  let magnitude :=
    nearest (binary.significand <<< binary.exponent.toNat) (1 <<< (-binary.exponent).toNat)
  if binary.negative then -magnitude else magnitude

/-- The whole part of the number, as a whole number. -/
def truncated (binary : Binary) : Int :=
  let magnitude :=
    binary.significand <<< binary.exponent.toNat >>> (-binary.exponent).toNat
  if binary.negative then -(magnitude : Int) else magnitude

/-- The number without its fraction. Numbers that have no place behind the point stay as they are,
as do infinities and what is not a number. -/
def whole (number : Float) : Float :=
  let binary := ofFloat number
  if !isFinite number || decide (0 ≤ binary.exponent) then number
  else
    let magnitude := Float.ofNat (binary.significand >>> (-binary.exponent).toNat)
    if binary.negative then -magnitude else magnitude

end Binary

end Parlance
