import Mathlib
import Parlance.Number.Remainder
import Parlance.Proofs.Number.Nearest

/-!
# Exact remainders

The remainder of a whole number is less than the divisor, so it is the value of a number if the divisor
is short, and then the remainder that is computed is exact. Its sign is that of the dividend.
-/

namespace Parlance.Binary

variable {dividend divisor : Binary} {whole other : Nat}

/-- Both magnitudes are counted in the smaller of the two last places, where the remainder is one of
whole numbers. -/
theorem magnitude_remainder (first : dividend.magnitude = whole)
    (second : divisor.magnitude = other) :
    (dividend.remainder divisor).magnitude = (whole % other : Nat) := by
  have scaled : ∀ part : Binary, min dividend.exponent divisor.exponent ≤ part.exponent →
      ((part.significand <<< (part.exponent - min dividend.exponent divisor.exponent).toNat : Nat) : ℚ) *
        2 ^ min dividend.exponent divisor.exponent = part.magnitude := by
    intro part least
    rw [magnitude, zpow_eq_mul_zpow least, Nat.shiftLeft_eq]
    push_cast
    ring
  have former := (scaled dividend (min_le_left ..)).trans first
  have latter := (scaled divisor (min_le_right ..)).trans second
  rw [magnitude, Binary.remainder]
  dsimp only
  generalize min dividend.exponent divisor.exponent = exponent at *
  generalize dividend.significand <<< (dividend.exponent - exponent).toNat = above at *
  generalize divisor.significand <<< (divisor.exponent - exponent).toNat = below at *
  have place : (0 : ℚ) < 2 ^ exponent := by positivity
  have quotient : above / below = whole / other := by
    rw [← Nat.floor_div_eq_div (K := ℚ), ← Nat.floor_div_eq_div (K := ℚ), ← former, ← latter,
      mul_div_mul_right _ _ place.ne']
  have parts : (below * (above / below : Nat) + (above % below : Nat) : ℚ) = above := by
    exact_mod_cast Nat.div_add_mod above below
  have wholes : (other * (whole / other : Nat) + (whole % other : Nat) : ℚ) = whole := by
    exact_mod_cast Nat.div_add_mod whole other
  rw [quotient] at parts
  linear_combination (2 : ℚ) ^ exponent * parts - wholes + former -
    ((whole / other : Nat) : ℚ) * latter

/-- The value of a remainder, whose sign is that of the dividend. -/
theorem value_remainder {signed : Int} (first : dividend.value = signed)
    (second : divisor.value = other) :
    (dividend.remainder divisor).value = (signed.tmod other : Int) := by
  have dividends : dividend.magnitude = signed.natAbs := by
    rw [← abs_value, first, Nat.cast_natAbs, Int.cast_abs]
  have divisors : divisor.magnitude = other := by
    rw [← abs_value, second, Nat.abs_cast]
  have magnitude := magnitude_remainder dividends divisors
  have sign : (dividend.remainder divisor).negative = dividend.negative := rfl
  rw [value, magnitude, sign]
  rw [value, dividends] at first
  generalize signed.natAbs = count at *
  split at first
  · rename_i negative
    obtain rfl : signed = -(count : Int) := by exact_mod_cast first.symm
    rw [Int.neg_tmod, ← Int.ofNat_tmod, if_pos negative, Int.cast_neg, Int.cast_natCast]
  · rename_i unsigned
    obtain rfl : signed = count := by exact_mod_cast first.symm
    rw [← Int.ofNat_tmod, if_neg unsigned, Int.cast_natCast]

/-- The remainder of a whole number divided by a short one is exact. -/
theorem denotes_remainder {number other : Float} {whole : Int} {count : Nat}
    (first : Denotes number whole) (second : Denotes other count) (some : 0 < count)
    (short : count ≤ 2 * unit) :
    Denotes (Parlance.remainder number other) (whole.tmod count : Int) := by
  have counted : (ofFloat other).significand ≠ 0 := by
    intro nothing
    rw [← value_eq_zero_iff, second.value_eq, Nat.cast_eq_zero] at nothing
    omega
  have value := value_remainder first.value_eq second.value_eq
  have representable : IsRepresentable ((whole.tmod count : Int) : ℚ) := by
    apply isRepresentable_intCast
    rw [Int.natAbs_tmod, Int.natAbs_natCast]
    exact (Nat.mod_lt _ some).trans_le short
  rw [← value] at representable ⊢
  have computed : Parlance.remainder number other =
      ((ofFloat number).remainder (ofFloat other)).toFloat := by
    rw [Parlance.remainder, isNaN_of_isFinite first.finite, isNaN_of_isFinite second.finite,
      first.finite, second.finite, beq_eq_false_iff_ne.2 counted]
    simp only [Bool.not_true, Bool.or_false, Bool.false_eq_true, if_false]
  rw [computed]
  exact denotes_toFloat representable

end Parlance.Binary
