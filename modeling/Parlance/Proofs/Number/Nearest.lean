import Mathlib
import Parlance.Proofs.Number.Shortest
import Parlance.Proofs.Number.Truncation
import Parlance.Proofs.Number.Unsigned

/-!
# Rounding what is exact

The nearest number to a value that some number has is that number: its value lies in its own interval.
So putting a number together from a value of this kind loses nothing.
-/

namespace Parlance.Binary

variable {binary : Binary} {quantity : ℚ} {numerator denominator : Nat}

theorem abs_value (binary : Binary) : |binary.value| = binary.magnitude := by
  have least := binary.magnitude_nonneg
  rw [value]
  split
  · rw [abs_neg, abs_of_nonneg least]
  · rw [abs_of_nonneg least]

theorem IsRepresentable.neg (representable : IsRepresentable quantity) :
    IsRepresentable (-quantity) := by
  obtain ⟨binary, regular, rfl⟩ := representable
  exact ⟨binary.opposite, regular.opposite, value_opposite binary⟩

/-- The magnitude of a number lies in its interval. -/
theorem attracts_magnitude (counted : 0 < binary.significand) :
    binary.Attracts binary.magnitude := by
  have quarters : binary.magnitude / 2 ^ (binary.exponent - 2) = 4 * binary.significand := by
    rw [quarters_eq, magnitude, mul_div_cancel_right₀ _ (by positivity)]
  exact Decimal.attracts_of_quarter counted (by linarith) quarters.le

/-- Rounding keeps a quotient that is the value of a number. -/
theorem denotes_nearest (positive : 0 < denominator)
    (representable : IsRepresentable ((numerator : ℚ) / denominator)) :
    Denotes (nearest numerator denominator) ((numerator : ℚ) / denominator) := by
  rcases Nat.eq_zero_or_pos numerator with rfl | counted
  · rw [Nat.cast_zero, zero_div]
    exact denotes_zero .positive
  · obtain ⟨binary, regular, same⟩ := representable
    have above : (0 : ℚ) < numerator / denominator := by positivity
    rw [← same] at above
    have unsigned : binary.negative = false := by
      rw [Bool.eq_false_iff]
      intro negative
      rw [value, if_pos negative] at above
      linarith [binary.magnitude_nonneg]
    have magnitude : (numerator : ℚ) / denominator = binary.magnitude := by
      rw [← same, value, unsigned]
      rfl
    have counts : 0 < binary.significand :=
      Nat.pos_of_ne_zero fun nothing => above.ne' (value_eq_zero_iff.2 nothing)
    obtain ⟨number, finite, rfl⟩ := regular.exists_ofFloat_eq
    have restored := (ofFloat_spec finite
      ⟨isNaN_of_isFinite finite, (negative_ofFloat number).symm.trans unsigned⟩).2.2
    rw [nearest_of_attracts regular counts positive (magnitude ▸ attracts_magnitude counts),
      restored]
    exact ⟨finite, same⟩

/-- Putting a number together keeps a value that is that of a number. -/
theorem denotes_toFloat (representable : IsRepresentable binary.value) :
    Denotes binary.toFloat binary.value := by
  have positive : 0 < 1 <<< (-binary.exponent).toNat := by
    rw [Nat.shiftLeft_eq]
    positivity
  have quotient : ((binary.significand <<< binary.exponent.toNat : Nat) : ℚ) /
      (1 <<< (-binary.exponent).toNat : Nat) = binary.magnitude := by
    rw [magnitude, ← toNat_pow_div 2 binary.exponent, Nat.shiftLeft_eq, Nat.shiftLeft_eq]
    push_cast
    ring
  have nearest := @denotes_nearest (binary.significand <<< binary.exponent.toNat) _ positive
  rw [quotient] at nearest
  rw [value] at representable ⊢
  rw [toFloat]
  split
  · rename_i negative
    rw [if_pos negative] at representable
    exact (nearest (by simpa using representable.neg)).neg
  · rename_i unsigned
    rw [if_neg unsigned] at representable
    exact nearest representable

end Parlance.Binary
