import Parlance.Number.Binary

/-!
# Remainders

The remainder of a division that is cut off toward zero. It is exact and has the sign of the
dividend.
-/

namespace Parlance

/-- The remainder of the magnitudes of two finite numbers, the second not zero. -/
def Binary.remainder (dividend divisor : Binary) : Binary :=
  let exponent := min dividend.exponent divisor.exponent
  let scaled (part : Binary) : Nat := part.significand <<< (part.exponent - exponent).toNat
  ⟨dividend.negative, scaled dividend % scaled divisor, exponent⟩

/-- The remainder of two numbers. It is undefined for an infinite dividend and for the divisor
zero; an infinite divisor leaves the dividend as it is. -/
def remainder (dividend divisor : Float) : Float :=
  if dividend.isNaN || divisor.isNaN || !Binary.isFinite dividend ||
      (Binary.ofFloat divisor).significand == 0 then
    Binary.undefinedResult
  else if !Binary.isFinite divisor then dividend
  else ((Binary.ofFloat dividend).remainder (Binary.ofFloat divisor)).toFloat

end Parlance
