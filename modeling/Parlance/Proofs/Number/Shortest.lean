import Mathlib
import Parlance.Proofs.Number.Rounding

/-!
# Shortest decimals read back

What the grids offer lies in the number's interval, and the search reaches a grid that is fine enough
to offer something: seventeen digits always suffice. So the shortest decimal of a number is rounded to
the number again.
-/

namespace Parlance.Decimal

open Binary

variable {binary : Binary} {exponent : Int} {decimal : Decimal} {interval : Interval}

/-- What the decimal stands for. -/
def value (decimal : Decimal) : ℚ := decimal.digits * 10 ^ decimal.exponent

/-! ### Grids -/

theorem Interval.holds_iff {scale divisor digits : Nat} (positive : 0 < scale) :
    interval.holds scale divisor digits = true ↔
      interval.Contains ((digits : ℚ) * divisor / scale) := by
  have positive : (0 : ℚ) < scale := by exact_mod_cast positive
  unfold holds Contains
  split
  · rw [Bool.and_eq_true, decide_eq_true_eq, decide_eq_true_eq, le_div_iff₀ positive,
      div_le_iff₀ positive]
    norm_cast
  · rw [Bool.and_eq_true, decide_eq_true_eq, decide_eq_true_eq, lt_div_iff₀ positive,
      div_lt_iff₀ positive]
    norm_cast

/-- The scale of a grid: quarters of a place, brought to a common denominator with the grid's step. -/
theorem grid_scale (quarter exponent : ℤ) :
    ((Nat.pow 2 (-quarter).toNat * Nat.pow 10 exponent.toNat : Nat) : ℚ) /
        (Nat.pow 2 quarter.toNat * Nat.pow 10 (-exponent).toNat : Nat) =
      10 ^ exponent / 2 ^ quarter := by
  rw [← toNat_pow_div 2 quarter, ← toNat_pow_div 10 exponent]
  simp only [Nat.pow_eq]
  push_cast
  field_simp

/-- The check that a grid makes of its decimals. -/
theorem holds_iff_attracts (digits : Nat) :
    (Interval.of binary).holds
        (Nat.pow 2 (binary.exponent - 2).toNat * Nat.pow 10 (-exponent).toNat)
        (Nat.pow 2 (-(binary.exponent - 2)).toNat * Nat.pow 10 exponent.toNat) digits = true ↔
      binary.Attracts (value ⟨digits, exponent⟩) := by
  rw [Interval.holds_iff (by simp only [Nat.pow_eq]; positivity), Attracts, value, mul_div_assoc,
    grid_scale, mul_div_assoc]

/-- What a grid offers lies in the interval. -/
theorem attracts_of_onGrid? (found : onGrid? binary (.of binary) exponent = some decimal) :
    0 < decimal.digits ∧ binary.Attracts decimal.value := by
  simp only [onGrid?] at found
  split at found
  · rename_i lower
    simp only [Bool.and_eq_true, decide_eq_true_eq, holds_iff_attracts] at lower
    cases found
    exact lower.1
  · split at found
    · rename_i upper
      cases found
      exact ⟨Nat.succ_pos _, (holds_iff_attracts _).1 upper⟩
    · cases found

/-- What is less than a quarter below the number lies in its interval. -/
theorem attracts_of_quarter {quotient : ℚ} (counted : 0 < binary.significand)
    (below : 4 * (binary.significand : ℚ) - 1 < quotient / 2 ^ (binary.exponent - 2))
    (above : quotient / 2 ^ (binary.exponent - 2) ≤ 4 * binary.significand) :
    binary.Attracts quotient := by
  have low : ((Interval.of binary).low : ℚ) ≤ 4 * binary.significand - 1 := by
    have digits : 1 ≤ 4 * binary.significand := by omega
    calc ((Interval.of binary).low : ℚ) ≤ (4 * binary.significand - 1 : Nat) := by
          simp only [Interval.of]
          gcongr
          split <;> decide
      _ = 4 * binary.significand - 1 := by
          push_cast [digits]
          ring
  have high : ((Interval.of binary).high : ℚ) = 4 * binary.significand + 2 := by
    simp [Interval.of]
  rw [Attracts, Interval.Contains, high]
  split <;> constructor <;> linarith

/-- On a grid that is no coarser than a quarter of a place, the decimal below the number is near
enough. -/
theorem attracts_below (counted : 0 < binary.significand)
    (fine : (10 : ℚ) ^ exponent ≤ 2 ^ (binary.exponent - 2)) :
    let below := (Interval.of binary).number *
        (Nat.pow 2 (binary.exponent - 2).toNat * Nat.pow 10 (-exponent).toNat) /
      (Nat.pow 2 (-(binary.exponent - 2)).toNat * Nat.pow 10 exponent.toNat)
    0 < below ∧ binary.Attracts (value ⟨below, exponent⟩) := by
  intro below
  have scaled := grid_scale (binary.exponent - 2) exponent
  have positive : 0 < Nat.pow 2 (binary.exponent - 2).toNat * Nat.pow 10 (-exponent).toNat := by
    simp only [Nat.pow_eq]
    positivity
  have divided : 0 < Nat.pow 2 (-(binary.exponent - 2)).toNat * Nat.pow 10 exponent.toNat := by
    simp only [Nat.pow_eq]
    positivity
  set scale := Nat.pow 2 (binary.exponent - 2).toNat * Nat.pow 10 (-exponent).toNat
  set divisor := Nat.pow 2 (-(binary.exponent - 2)).toNat * Nat.pow 10 exponent.toNat
  have positive : (0 : ℚ) < scale := by exact_mod_cast positive
  have one : (1 : ℚ) ≤ binary.significand := by exact_mod_cast counted
  have places : (value ⟨below, exponent⟩) / 2 ^ (binary.exponent - 2) = below * divisor / scale := by
    rw [value, mul_div_assoc, ← scaled, mul_div_assoc]
  have step : (divisor : ℚ) ≤ scale := by
    rwa [← div_le_one positive, scaled, div_le_one (by positivity)]
  have floor : (below * divisor : ℚ) ≤ 4 * binary.significand * scale := by
    exact_mod_cast Nat.div_mul_le_self (4 * binary.significand * scale) divisor
  have next : (4 * binary.significand * scale : ℚ) < below * divisor + divisor := by
    exact_mod_cast Nat.lt_div_mul_add divided
  have near : 4 * (binary.significand : ℚ) - 1 < below * divisor / scale := by
    rw [lt_div_iff₀ positive]
    linarith
  refine ⟨?_, attracts_of_quarter counted (by rwa [places]) ?_⟩
  · by_contra zero
    rw [Nat.eq_zero_of_not_pos zero] at near
    norm_num at near
    linarith
  · rw [places, div_le_iff₀ positive]
    exact floor

/-- A grid offers something if the decimal below the number is near enough. -/
theorem exists_onGrid?_of_attracts {below : Nat}
    (isBelow : (Interval.of binary).number *
        (Nat.pow 2 (binary.exponent - 2).toNat * Nat.pow 10 (-exponent).toNat) /
      (Nat.pow 2 (-(binary.exponent - 2)).toNat * Nat.pow 10 exponent.toNat) = below)
    (counts : 0 < below) (near : binary.Attracts (value ⟨below, exponent⟩)) :
    ∃ decimal, onGrid? binary (.of binary) exponent = some decimal := by
  subst isBelow
  rw [← holds_iff_attracts] at near
  simp only [onGrid?]
  split
  · exact ⟨_, rfl⟩
  · rename_i other
    split
    · exact ⟨_, rfl⟩
    · rename_i upper
      refine absurd ?_ other
      rw [decide_eq_true counts, near, Bool.eq_false_of_not_eq_true upper]
      rfl

/-- A grid that is no coarser than a quarter of a place offers something. -/
theorem exists_onGrid? (counted : 0 < binary.significand)
    (fine : (10 : ℚ) ^ exponent ≤ 2 ^ (binary.exponent - 2)) :
    ∃ decimal, onGrid? binary (.of binary) exponent = some decimal := by
  obtain ⟨counts, near⟩ := attracts_below counted fine
  exact exists_onGrid?_of_attracts rfl counts near

/-- The search ends on a grid that offers something, if there is one within its fuel. -/
theorem attracts_search (counted : 0 < binary.significand) (fuel : Nat) (exponent : Int)
    (fine : (10 : ℚ) ^ (exponent - fuel) ≤ 2 ^ (binary.exponent - 2)) :
    0 < (search binary (.of binary) (fuel + 1) exponent).digits ∧
      binary.Attracts (search binary (.of binary) (fuel + 1) exponent).value := by
  induction fuel generalizing exponent with
  | zero =>
      rw [Nat.cast_zero, sub_zero] at fine
      obtain ⟨decimal, found⟩ := exists_onGrid? counted fine
      rw [search, found]
      exact attracts_of_onGrid? found
  | succ fuel induction =>
      rw [search]
      cases found : onGrid? binary (.of binary) exponent with
      | some decimal => exact attracts_of_onGrid? found
      | none =>
          refine induction (exponent - 1) ?_
          rw [sub_sub, add_comm 1]
          exact_mod_cast fine

/-! ### The first grid -/

/-- A positive number lies between the powers of ten that its number of digits gives. -/
theorem digitCount_bounds {number : Nat} (positive : 0 < number) :
    (10 : ℚ) ^ (digitCount number - 1 : ℤ) ≤ number ∧
      (number : ℚ) + 1 ≤ 10 ^ (digitCount number : ℤ) := by
  obtain ⟨places, count⟩ : ∃ places, digitCount number = places + 1 :=
    Nat.exists_eq_succ_of_ne_zero (Nat.length_toDigits_pos).ne'
  have upper : number < 10 ^ (places + 1) :=
    (Nat.length_toDigits_le_iff (by decide) (Nat.succ_pos _)).1 count.le
  have lower : 10 ^ places ≤ number := by
    cases places with
    | zero => exact positive
    | succ places =>
        by_contra less
        have short := (Nat.length_toDigits_le_iff (by decide) (Nat.succ_pos _)).2 (not_le.1 less)
        rw [digitCount] at count
        omega
  rw [count, Nat.cast_succ, add_sub_cancel_right, zpow_natCast]
  exact ⟨by exact_mod_cast lower, by exact_mod_cast upper⟩

/-- The first grid is at most ten times as coarse as the number is great. -/
theorem firstExponent_le (counted : 0 < binary.significand) :
    (10 : ℚ) ^ (firstExponent binary - 1) ≤ binary.significand * 2 ^ binary.exponent := by
  unfold firstExponent
  rw [← toNat_pow_div 2 binary.exponent]
  split
  · rename_i upward
    have positive : 0 < binary.significand * Nat.pow 2 binary.exponent.toNat := by
      simp only [Nat.pow_eq]
      positivity
    rw [Int.toNat_of_nonpos (Int.neg_nonpos_of_nonneg upward), pow_zero, div_one]
    exact_mod_cast (digitCount_bounds positive).1
  · rename_i downward
    rw [Int.toNat_of_nonpos (by omega : binary.exponent ≤ 0), pow_zero, mul_one_div]
    have positive : 0 < Nat.pow 2 (-binary.exponent).toNat := by
      simp only [Nat.pow_eq]
      positivity
    have same : (2 : ℚ) ^ (-binary.exponent).toNat = (Nat.pow 2 (-binary.exponent).toNat : Nat) := by
      simp
    rw [same]
    generalize Nat.pow 2 (-binary.exponent).toNat = scale at *
    have scaled : (0 : ℚ) < scale := by exact_mod_cast positive
    dsimp only
    split
    · rename_i whole
      calc (10 : ℚ) ^ (digitCount (binary.significand / scale) - 1 : ℤ)
          ≤ (binary.significand / scale : Nat) :=
            (digitCount_bounds (Nat.div_pos whole positive)).1
        _ ≤ binary.significand / scale := Nat.cast_div_le
    · rename_i part
      have upper := (digitCount_bounds (Nat.div_pos (not_le.1 part).le counted)).2
      have counted : (0 : ℚ) < binary.significand := by exact_mod_cast counted
      rw [sub_sub_cancel_left, zpow_neg, ← inv_div, inv_le_inv₀ (by positivity) (by positivity)]
      refine le_trans ?_ upper
      rw [div_le_iff₀' counted]
      exact_mod_cast (Nat.lt_mul_div_succ scale (by exact_mod_cast counted)).le

/-- The shortest decimal lies in the interval. -/
theorem attracts_shortest (counted : 0 < binary.significand)
    (short : binary.significand < 2 * unit) :
    0 < (shortest binary).digits ∧ binary.Attracts (shortest binary).value := by
  refine attracts_search counted 19 _ ?_
  have short : (binary.significand : ℚ) ≤ 2 * unit := by exact_mod_cast short.le
  calc (10 : ℚ) ^ (firstExponent binary - (19 : Nat))
      = 10 ^ (firstExponent binary - 1) / 10 ^ 18 := by
        rw [← zpow_natCast, ← zpow_sub₀ (by norm_num)]
        congr 1
        omega
    _ ≤ 2 * unit * 2 ^ binary.exponent / 10 ^ 18 := by
        gcongr
        exact (firstExponent_le counted).trans (by gcongr)
    _ ≤ 2 ^ (binary.exponent - 2) := by
        rw [zpow_sub₀ two_ne_zero, div_eq_mul_inv _ ((2 : ℚ) ^ (2 : ℤ)), mul_div_right_comm, mul_comm]
        gcongr
        norm_num [unit]

/-! ### Reading back -/

/-- What a number attracts is as great as numbers are. -/
theorem range_of_attracts {quotient : ℚ} (regular : binary.IsRegular)
    (counted : 0 < binary.significand) (attracts : binary.Attracts quotient) :
    (10 : ℚ) ^ (-324 : ℤ) < quotient ∧ quotient < 10 ^ (309 : ℤ) := by
  obtain ⟨above, below⟩ := abs_le.1 (attracts.near counted).1
  have scale : (0 : ℚ) < 2 ^ binary.exponent := by positivity
  have one : (1 : ℚ) ≤ binary.significand := by exact_mod_cast counted
  have short : (binary.significand : ℚ) + 1 ≤ 2 * unit := by exact_mod_cast regular.short
  constructor
  · calc (10 : ℚ) ^ (-324 : ℤ) < 1 / 2 * 2 ^ leastExponent := by
          rw [leastExponent, zpow_neg, zpow_neg, one_div, ← mul_inv]
          refine inv_strictAnti₀ (by positivity) ?_
          exact_mod_cast (by decide +kernel : 2 * 2 ^ 1074 < 10 ^ 324)
      _ ≤ 1 / 2 * 2 ^ binary.exponent := by
          gcongr
          · exact one_le_two
          · exact regular.least
      _ ≤ quotient := by
          rw [← le_div_iff₀ scale]
          linarith
  · calc quotient ≤ 2 * unit * 2 ^ binary.exponent := by
          rw [← div_le_iff₀ scale]
          linarith
      _ ≤ 2 * unit * 2 ^ greatestExponent := by
          gcongr
          · exact one_le_two
          · exact regular.greatest
      _ < 10 ^ (309 : ℤ) := by
          rw [greatestExponent]
          exact_mod_cast (by decide +kernel : 2 * unit * 2 ^ 971 < 10 ^ 309)

/-- Decimals that lie in the interval of a number are read as the number. -/
theorem toFloat_of_attracts (regular : binary.IsRegular) (counted : 0 < binary.significand)
    (positive : 0 < decimal.digits) (attracts : binary.Attracts decimal.value) :
    decimal.toFloat = Float.ofBits binary.bits.toUInt64 := by
  obtain ⟨lower, upper⟩ := digitCount_bounds positive
  obtain ⟨above, below⟩ := range_of_attracts regular counted attracts
  have step : (0 : ℚ) < 10 ^ decimal.exponent := by positivity
  have notGreat : digitCount decimal.digits - 1 + decimal.exponent < (309 : ℤ) := by
    rw [← zpow_lt_zpow_iff_right₀ (by norm_num : (1 : ℚ) < 10), zpow_add₀ (by norm_num)]
    exact lt_of_le_of_lt (by rw [value]; gcongr) below
  have notSmall : (-324 : ℤ) < digitCount decimal.digits + decimal.exponent := by
    rw [← zpow_lt_zpow_iff_right₀ (by norm_num : (1 : ℚ) < 10), zpow_add₀ (by norm_num)]
    exact above.trans_le (by rw [value]; gcongr; linarith)
  have quotient : ((decimal.digits * Nat.pow 10 decimal.exponent.toNat : Nat) : ℚ) /
      (Nat.pow 10 (-decimal.exponent).toNat : Nat) = decimal.value := by
    rw [value, ← toNat_pow_div 10 decimal.exponent, ← mul_div_assoc]
    simp
  rw [toFloat, if_neg positive.ne']
  dsimp only
  rw [if_neg (by omega), if_neg (by omega)]
  refine nearest_of_attracts regular counted (by simp only [Nat.pow_eq]; positivity) ?_
  rwa [quotient]

end Parlance.Decimal
