import Mathlib
import Parlance.Number.Shortest

/-!
# Rounding to the nearest number

A quotient that lies within the interval of a number is rounded to that number. The exponent chosen
for the quotient is that of the number, except just below a power of two, where it is one less and
the significand is rounded up out of its range.
-/

namespace Parlance

/-- The integer power of a base, as the quotient of two powers of which one is trivial. -/
theorem toNat_pow_div (base : ℚ) (exponent : ℤ) :
    base ^ exponent.toNat / base ^ (-exponent).toNat = base ^ exponent := by
  rcases le_total 0 exponent with upward | downward
  · rw [Int.toNat_of_nonpos (Int.neg_nonpos_of_nonneg upward), pow_zero, div_one,
      ← zpow_natCast, Int.toNat_of_nonneg upward]
  · rw [Int.toNat_of_nonpos downward, pow_zero, one_div, ← zpow_natCast, ← zpow_neg,
      Int.toNat_of_nonneg (Int.neg_nonneg_of_nonpos downward), neg_neg]

namespace Binary

variable {numerator denominator : Nat} {exponent : Int}

theorem unit_pos : 0 < unit := by decide

/-- Scaling down divides the quotient by the power of two. -/
theorem scaleDown_spec (numerator : Nat) (exponent : Int) (positive : 0 < denominator) :
    0 < (scaleDown numerator denominator exponent).2 ∧
      ((scaleDown numerator denominator exponent).1 : ℚ) /
        (scaleDown numerator denominator exponent).2 =
      (numerator : ℚ) / denominator / 2 ^ exponent := by
  refine ⟨by simp [scaleDown, Nat.shiftLeft_eq, positive], ?_⟩
  rw [← toNat_pow_div 2 exponent]
  simp only [scaleDown, Nat.shiftLeft_eq, Nat.cast_mul, Nat.cast_pow, Nat.cast_ofNat]
  field_simp

/-! ### The exponent -/

/-- A positive whole number between two powers of two, as a rational. -/
theorem log2_bounds {number : Nat} (positive : 0 < number) :
    (2 : ℚ) ^ (number.log2 : ℤ) ≤ number ∧ (number : ℚ) < 2 ^ (number.log2 + 1 : ℤ) := by
  constructor
  · rw [zpow_natCast]
    exact_mod_cast Nat.log2_self_le positive.ne'
  · rw [← Nat.cast_succ, zpow_natCast]
    exact_mod_cast Nat.lt_log2_self

/-- The quotient of two positive whole numbers lies in the two binades that their logarithms leave. -/
theorem log2_quotient (counted : 0 < numerator) (positive : 0 < denominator) :
    (2 : ℚ) ^ (numerator.log2 - denominator.log2 - 1 : ℤ) ≤ numerator / denominator ∧
      (numerator : ℚ) / denominator < 2 ^ (numerator.log2 - denominator.log2 + 1 : ℤ) := by
  obtain ⟨least, most⟩ := log2_bounds counted
  obtain ⟨divisorLeast, divisorMost⟩ := log2_bounds positive
  have divisor : (0 : ℚ) < denominator := by exact_mod_cast positive
  rw [le_div_iff₀ divisor, div_lt_iff₀ divisor]
  constructor
  · calc (2 : ℚ) ^ (numerator.log2 - denominator.log2 - 1 : ℤ) * denominator
        ≤ 2 ^ (numerator.log2 - denominator.log2 - 1 : ℤ) * 2 ^ (denominator.log2 + 1 : ℤ) := by
          gcongr
      _ = 2 ^ (numerator.log2 : ℤ) := by
          rw [← zpow_add₀ two_ne_zero]
          ring_nf
      _ ≤ numerator := least
  · calc (numerator : ℚ) < 2 ^ (numerator.log2 + 1 : ℤ) := most
      _ = 2 ^ (numerator.log2 - denominator.log2 + 1 : ℤ) * 2 ^ (denominator.log2 : ℤ) := by
          rw [← zpow_add₀ two_ne_zero]
          ring_nf
      _ ≤ 2 ^ (numerator.log2 - denominator.log2 + 1 : ℤ) * denominator := by gcongr

/-- The unit, scaled by a power of two. -/
theorem unit_mul_zpow (exponent : ℤ) : (unit : ℚ) * 2 ^ exponent = 2 ^ (exponent + 52) := by
  rw [show (unit : ℚ) = 2 ^ (52 : ℤ) by norm_num [unit], ← zpow_add₀ two_ne_zero, add_comm]

/-- Twice the unit, scaled by a power of two. -/
theorem two_unit_mul_zpow (exponent : ℤ) :
    2 * (unit : ℚ) * 2 ^ exponent = 2 ^ (exponent + 53) := by
  rw [mul_assoc, unit_mul_zpow, ← zpow_one_add₀ two_ne_zero]
  ring_nf

/-- The scaled quotient is below twice the unit just if the quotient is below it, scaled back. -/
theorem scaled_lt_iff (numerator : Nat) (exponent : Int) (positive : 0 < denominator) :
    (scaleDown numerator denominator exponent).1 <
        2 * unit * (scaleDown numerator denominator exponent).2 ↔
      (numerator : ℚ) / denominator < 2 ^ (exponent + 53) := by
  obtain ⟨scaled, same⟩ := scaleDown_spec numerator exponent positive
  rw [← two_unit_mul_zpow, ← div_lt_iff₀ (by positivity), ← same,
    div_lt_iff₀ (by exact_mod_cast scaled)]
  exact_mod_cast Iff.rfl

/-- Without the lower limit, the exponent is that of the quotient's binade. -/
theorem exists_binade (counted : 0 < numerator) (positive : 0 < denominator) :
    ∃ found : ℤ, exponentFor numerator denominator = max leastExponent found ∧
      (2 : ℚ) ^ (found + 52) ≤ numerator / denominator ∧
      (numerator : ℚ) / denominator < 2 ^ (found + 53) := by
  obtain ⟨lower, upper⟩ := log2_quotient counted positive
  have compared := scaled_lt_iff numerator (numerator.log2 - denominator.log2 - 53) positive
  simp only [exponentFor]
  split
  · rename_i below
    refine ⟨_, rfl, ?_, compared.1 below⟩
    convert lower using 2
    ring
  · rename_i above
    refine ⟨_, rfl, ?_, ?_⟩
    · rw [add_assoc]
      exact not_lt.1 (mt compared.2 above)
    · convert upper using 2
      ring

/-- The exponent brings the quotient below twice the unit, and to the unit if it is not the least
exponent. -/
theorem exponentFor_spec (counted : 0 < numerator) (positive : 0 < denominator) :
    (numerator : ℚ) / denominator < 2 ^ (exponentFor numerator denominator + 53) ∧
      (leastExponent < exponentFor numerator denominator →
        (2 : ℚ) ^ (exponentFor numerator denominator + 52) ≤ numerator / denominator) := by
  obtain ⟨found, chosen, atLeast, atMost⟩ := exists_binade counted positive
  rw [chosen]
  refine ⟨lt_of_lt_of_le atMost ?_, fun above => ?_⟩
  · refine zpow_le_zpow_right₀ one_le_two ?_
    have := le_max_right leastExponent found
    omega
  · rwa [max_eq_right_of_lt ((lt_max_iff.1 above).resolve_left (lt_irrefl _))]

theorem leastExponent_le_exponentFor : leastExponent ≤ exponentFor numerator denominator :=
  le_max_left ..

/-! ### The significand -/

/-- A quotient is its whole part and the fraction that the remainder leaves. -/
theorem quotient_parts (numerator : Nat) (positive : 0 < denominator) :
    (numerator : ℚ) / denominator =
      (numerator / denominator : Nat) + (numerator % denominator : Nat) / denominator := by
  have divisor : (denominator : ℚ) ≠ 0 := by exact_mod_cast positive.ne'
  rw [eq_comm, ← eq_sub_iff_add_eq', div_eq_iff divisor, sub_mul, div_mul_cancel₀ _ divisor,
    eq_sub_iff_add_eq]
  exact_mod_cast Nat.mod_add_div' numerator denominator

/-- Rounding looks at the side of a half on which the fraction lies. -/
theorem roundQuotient_cases (numerator : Nat) (positive : 0 < denominator) :
    ∃ whole fraction, (numerator : ℚ) / denominator = (whole : Nat) + fraction ∧ 0 ≤ fraction ∧
      fraction < 1 ∧
      (fraction < 1 / 2 ∧ roundQuotient numerator denominator = whole ∨
        1 / 2 < fraction ∧ roundQuotient numerator denominator = whole + 1 ∨
        fraction = 1 / 2 ∧ roundQuotient numerator denominator = whole + whole % 2) := by
  have divisor : (0 : ℚ) < denominator := by exact_mod_cast positive
  have remainder := Nat.mod_lt numerator positive
  refine ⟨_, _, quotient_parts numerator positive, by positivity, ?_, ?_⟩
  · rw [div_lt_one divisor]
    exact_mod_cast remainder
  · simp only [roundQuotient]
    generalize numerator % denominator = rest at *
    split_ifs with small large
    · refine .inl ⟨?_, rfl⟩
      rw [div_lt_iff₀ divisor, div_mul_eq_mul_div, lt_div_iff₀ two_pos]
      exact_mod_cast (by omega : rest * 2 < 1 * denominator)
    · refine .inr (.inl ⟨?_, rfl⟩)
      rw [lt_div_iff₀ divisor, div_mul_eq_mul_div, div_lt_iff₀ two_pos]
      exact_mod_cast (by omega : 1 * denominator < rest * 2)
    · refine .inr (.inr ⟨?_, rfl⟩)
      rw [div_eq_iff divisor.ne', div_mul_eq_mul_div, eq_div_iff two_ne_zero]
      exact_mod_cast (by omega : rest * 2 = 1 * denominator)

/-- Rounding gives the whole number at most a half away, of two the even one. -/
theorem roundQuotient_eq {nearest : Nat} (positive : 0 < denominator)
    (near : |(numerator : ℚ) / denominator - nearest| ≤ 1 / 2)
    (tie : |(numerator : ℚ) / denominator - nearest| = 1 / 2 → nearest % 2 = 0) :
    roundQuotient numerator denominator = nearest := by
  obtain ⟨whole, fraction, parts, nonnegative, proper, sides⟩ :=
    roundQuotient_cases numerator positive
  rw [parts, abs_le] at near
  rw [parts] at tie
  rcases sides with ⟨small, rounded⟩ | ⟨large, rounded⟩ | ⟨rfl, rounded⟩
  · have upper : (nearest : ℚ) < whole + 1 := by linarith
    have lower : (whole : ℚ) < nearest + 1 := by linarith
    norm_cast at upper lower
    omega
  · have upper : (nearest : ℚ) < whole + 2 := by linarith
    have lower : (whole : ℚ) < nearest := by linarith
    norm_cast at upper lower
    omega
  · have upper : (nearest : ℚ) ≤ whole + 1 := by linarith
    have lower : (whole : ℚ) ≤ nearest := by linarith
    norm_cast at upper lower
    -- Both neighbours are equally near.
    have even : nearest % 2 = 0 := by
      apply tie
      obtain same | same : nearest = whole ∨ nearest = whole + 1 := by omega
      · rw [same]
        norm_num
      · rw [same]
        norm_num
    omega

theorem roundQuotient_le {bound : Nat} (below : numerator < bound * denominator) :
    roundQuotient numerator denominator ≤ bound := by
  have quotient : numerator / denominator < bound := Nat.div_lt_of_lt_mul (by rwa [mul_comm])
  simp only [roundQuotient]
  split_ifs <;> omega

/-! ### Regular numbers -/

/-- The parts are those of a finite number, apart from its sign: significands below the unit go with
the least exponent only. -/
structure IsRegular (binary : Binary) : Prop where
  short : binary.significand < 2 * unit
  least : leastExponent ≤ binary.exponent
  greatest : binary.exponent ≤ greatestExponent
  subnormal : binary.significand < unit → binary.exponent = leastExponent

/-- The bits of the number with these parts, apart from its sign. -/
def bits (binary : Binary) : Nat :=
  if binary.significand < unit then binary.significand
  else (binary.exponent + 1075).toNat * unit + (binary.significand - unit)

end Binary

/-- The interval contains this many quarters of the last binary place. -/
def Decimal.Interval.Contains (interval : Interval) (quarters : ℚ) : Prop :=
  if interval.closed then interval.low ≤ quarters ∧ quarters ≤ interval.high
  else interval.low < quarters ∧ quarters < interval.high

namespace Binary

variable {binary : Binary} {quotient : ℚ} {numerator denominator : Nat}

/-- The quotient lies in the interval of the number. -/
def Attracts (binary : Binary) (quotient : ℚ) : Prop :=
  (Decimal.Interval.of binary).Contains (quotient / 2 ^ (binary.exponent - 2))

/-- Four quarters make a place. -/
theorem quarters_eq (quotient : ℚ) (exponent : ℤ) :
    quotient / 2 ^ (exponent - 2) = 4 * (quotient / 2 ^ exponent) := by
  rw [zpow_sub₀ two_ne_zero]
  field_simp
  norm_num

/-- What a number attracts is at most half a place away, and less than that if the significand is
odd. -/
theorem Attracts.near (attracts : binary.Attracts quotient) (counted : 0 < binary.significand) :
    |quotient / 2 ^ binary.exponent - binary.significand| ≤ 1 / 2 ∧
      (|quotient / 2 ^ binary.exponent - binary.significand| = 1 / 2 →
        binary.significand % 2 = 0) := by
  rw [Attracts, Decimal.Interval.Contains, quarters_eq] at attracts
  set places := quotient / 2 ^ binary.exponent
  have low : (4 * binary.significand - 2 : ℚ) ≤ (Decimal.Interval.of binary).low := by
    simp only [Decimal.Interval.of]
    rw [Nat.cast_sub (by split <;> omega)]
    split <;> push_cast <;> linarith
  have high : ((Decimal.Interval.of binary).high : ℚ) = 4 * binary.significand + 2 := by
    simp [Decimal.Interval.of]
  rw [high] at attracts
  split at attracts
  · rename_i even
    have even : binary.significand % 2 = 0 := by simpa [Decimal.Interval.of] using even
    refine ⟨abs_le.2 ⟨?_, ?_⟩, fun _ => even⟩ <;> linarith
  · have inside : |places - binary.significand| < 1 / 2 :=
      abs_lt.2 ⟨by linarith, by linarith⟩
    exact ⟨inside.le, fun half => absurd half inside.ne⟩

/-- What the least significand attracts is no further below than half a place of the numbers
there. -/
theorem Attracts.narrow (attracts : binary.Attracts quotient) (least : binary.significand = unit)
    (above : leastExponent < binary.exponent) :
    unit - 1 / 4 ≤ quotient / 2 ^ binary.exponent := by
  have low : ((Decimal.Interval.of binary).low : ℚ) = 4 * unit - 1 := by
    norm_num [Decimal.Interval.of, least, above, unit]
  have bound : ((Decimal.Interval.of binary).low : ℚ) ≤ quotient / 2 ^ (binary.exponent - 2) := by
    rw [Attracts, Decimal.Interval.Contains] at attracts
    split at attracts
    · exact attracts.1
    · exact attracts.1.le
  rw [low, quarters_eq] at bound
  linarith

/-- The parts that rounding ends with are the number's. -/
theorem nearest_of_rounded (regular : binary.IsRegular) (counted : 0 < numerator)
    (rounded :
      let scaled := scaleDown numerator denominator (exponentFor numerator denominator)
      let rounded := roundQuotient scaled.1 scaled.2
      (rounded = binary.significand ∧ exponentFor numerator denominator = binary.exponent) ∨
        rounded = 2 * unit ∧ binary.significand = unit ∧
          exponentFor numerator denominator = binary.exponent - 1) :
    nearest numerator denominator = Float.ofBits binary.bits.toUInt64 := by
  have inRange := regular.greatest
  have short := regular.short
  unfold nearest bits
  rw [if_neg counted.ne']
  dsimp only at rounded ⊢
  rcases rounded with ⟨significand, exponent⟩ | ⟨significand, least, exponent⟩
  · rw [significand, exponent, if_neg short.ne, if_neg (not_lt.2 inRange)]
    split <;> rfl
  · rw [significand, exponent, if_pos rfl, least, sub_add_cancel, if_neg (not_lt.2 inRange)]
    simp

/-- What a number attracts is not scaled by more than the number. -/
theorem Attracts.exponentFor_le (attracts : binary.Attracts (numerator / denominator))
    (regular : binary.IsRegular) (counted : 0 < binary.significand)
    (counted' : 0 < numerator) (positive : 0 < denominator) :
    exponentFor numerator denominator ≤ binary.exponent := by
  by_contra greater
  rw [not_le] at greater
  have atLeast := (exponentFor_spec counted' positive).2 (lt_of_le_of_lt regular.least greater)
  have atMost := (abs_le.1 (attracts.near counted).1).2
  have scale : (0 : ℚ) < 2 ^ binary.exponent := by positivity
  have short : (binary.significand : ℚ) + 1 ≤ 2 * unit := by exact_mod_cast regular.short
  have much : 2 * (unit : ℚ) ≤ numerator / denominator / 2 ^ binary.exponent := by
    rw [le_div_iff₀ scale, two_unit_mul_zpow]
    exact (zpow_le_zpow_right₀ one_le_two (by omega)).trans atLeast
  linarith

/-- If what a number attracts is scaled by less than the number, then the number has the least
significand, and by half as much. -/
theorem Attracts.of_exponentFor_lt (attracts : binary.Attracts (numerator / denominator))
    (regular : binary.IsRegular) (counted : 0 < binary.significand)
    (counted' : 0 < numerator) (positive : 0 < denominator)
    (less : exponentFor numerator denominator < binary.exponent) :
    binary.significand = unit ∧ exponentFor numerator denominator = binary.exponent - 1 ∧
      |(numerator : ℚ) / denominator / 2 ^ exponentFor numerator denominator - (2 * unit : Nat)| ≤
        1 / 2 := by
  have below := (exponentFor_spec counted' positive).1
  have above : leastExponent < binary.exponent := lt_of_le_of_lt leastExponent_le_exponentFor less
  have scale : (0 : ℚ) < 2 ^ binary.exponent := by positivity
  have normal : unit ≤ binary.significand := by
    by_contra small
    exact above.ne' (regular.subnormal (not_le.1 small))
  have little : (numerator : ℚ) / denominator / 2 ^ binary.exponent < unit := by
    rw [div_lt_iff₀ scale, unit_mul_zpow]
    exact below.trans_le (zpow_le_zpow_right₀ one_le_two (by omega))
  have least : binary.significand = unit := by
    have atLeast := (abs_le.1 (attracts.near counted).1).1
    have close : (binary.significand : ℚ) < unit + 1 := by linarith
    norm_cast at close
    omega
  have narrow := attracts.narrow least above
  have half : exponentFor numerator denominator = binary.exponent - 1 := by
    by_contra other
    have less : (numerator : ℚ) / denominator / 2 ^ binary.exponent < unit / 2 := by
      have halved : (2 : ℚ) ^ (binary.exponent + 52) / 2 = 2 ^ (binary.exponent + 52 - 1) := by
        rw [zpow_sub_one₀ two_ne_zero, div_eq_mul_inv]
      rw [div_lt_iff₀ scale, div_mul_eq_mul_div, unit_mul_zpow, halved]
      exact below.trans_le (zpow_le_zpow_right₀ one_le_two (by omega))
    norm_num [unit] at narrow less
    linarith
  refine ⟨least, half, ?_⟩
  rw [half, zpow_sub_one₀ two_ne_zero, ← div_div, div_inv_eq_mul, abs_le]
  push_cast
  constructor <;> linarith

/-- What a number attracts is rounded to the number. -/
theorem nearest_of_attracts (regular : binary.IsRegular) (counted : 0 < binary.significand)
    (positive : 0 < denominator) (attracts : binary.Attracts (numerator / denominator)) :
    nearest numerator denominator = Float.ofBits binary.bits.toUInt64 := by
  obtain ⟨near, tie⟩ := attracts.near counted
  have counted' : 0 < numerator := by
    by_contra zero
    have one : (1 : ℚ) ≤ binary.significand := by exact_mod_cast counted
    have away := (abs_le.1 near).1
    simp [Nat.eq_zero_of_not_pos zero] at away
    linarith
  obtain ⟨scaled, same⟩ := scaleDown_spec numerator (exponentFor numerator denominator) positive
  refine nearest_of_rounded regular counted' ?_
  rcases (attracts.exponentFor_le regular counted counted' positive).eq_or_lt with exponent | less
  · refine .inl ⟨roundQuotient_eq scaled ?_ ?_, exponent⟩
    · rwa [same, exponent]
    · rwa [same, exponent]
  · obtain ⟨least, half, close⟩ :=
      attracts.of_exponentFor_lt regular counted counted' positive less
    refine .inr ⟨roundQuotient_eq scaled ?_ fun _ => ?_, least, half⟩
    · rwa [same]
    · exact Nat.mul_mod_right 2 unit

end Binary

end Parlance
