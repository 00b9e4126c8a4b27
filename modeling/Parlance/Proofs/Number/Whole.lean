import Mathlib
import Parlance.Proofs.Number.Coercion
import Parlance.Proofs.Number.Nearest

/-!
# Written whole numbers

A whole number below twice the unit is less than a place away from no other whole number. So the
decimals that its interval holds, on the grids that the search tries before it reaches a point, have its
very value, and the number is written with its digits alone. No other number is written like that.
-/

namespace Parlance

open Binary

variable {binary : Binary} {decimal : Decimal} {number : Float} {count : Nat}

namespace Decimal

/-! ### The search -/

theorem exponent_of_onGrid? {interval : Interval} {exponent : Int}
    (found : onGrid? binary interval exponent = some decimal) : decimal.exponent = exponent := by
  simp only [onGrid?] at found
  split at found
  · cases found
    rfl
  · split at found
    · cases found
      rfl
    · cases found

/-- The search gives what some grid offers that is no finer than one that is known to offer something. -/
theorem exists_search_eq {interval : Interval} {least : Int}
    (offers : ∃ decimal, onGrid? binary interval least = some decimal) (fuel : Nat) (exponent : Int)
    (ordered : least ≤ exponent) (enough : exponent < least + fuel) :
    ∃ found, least ≤ found ∧
      onGrid? binary interval found = some (search binary interval fuel exponent) := by
  induction fuel generalizing exponent with
  | zero => omega
  | succ fuel ih =>
      rw [search]
      cases offered : onGrid? binary interval exponent with
      | some decimal => exact ⟨exponent, ordered, offered⟩
      | none =>
          obtain ⟨decimal, offers⟩ := offers
          have finer : least ≠ exponent := by
            rintro rfl
            rw [offered] at offers
            cases offers
          exact ih (exponent - 1) (by omega) (by omega)

/-! ### Whole numbers -/

theorem significand_pos (same : binary.magnitude = count) (counted : 0 < count) :
    0 < binary.significand := by
  apply Nat.pos_of_ne_zero
  intro nothing
  rw [magnitude_eq_zero_iff.2 nothing] at same
  exact counted.ne (by exact_mod_cast same)

/-- The grid of the units offers a whole number itself. -/
theorem exists_onGrid?_zero (same : binary.magnitude = count) (counted : 0 < count) :
    ∃ decimal, onGrid? binary (.of binary) 0 = some decimal := by
  have itself : (Interval.of binary).number *
        (Nat.pow 2 (binary.exponent - 2).toNat * Nat.pow 10 (-(0 : ℤ)).toNat) /
      (Nat.pow 2 (-(binary.exponent - 2)).toNat * Nat.pow 10 (0 : ℤ).toNat) = count := by
    have quarters : (4 * binary.significand : ℚ) * 2 ^ (binary.exponent - 2) = count := by
      rw [← same, magnitude, zpow_sub₀ two_ne_zero]
      ring
    have quotient : (((Interval.of binary).number *
          (Nat.pow 2 (binary.exponent - 2).toNat * Nat.pow 10 (-(0 : ℤ)).toNat) : Nat) : ℚ) /
        (Nat.pow 2 (-(binary.exponent - 2)).toNat * Nat.pow 10 (0 : ℤ).toNat : Nat) = count := by
      rw [← quarters, ← toNat_pow_div 2 (binary.exponent - 2)]
      simp [Interval.of, mul_div_assoc]
    rw [← Nat.floor_div_eq_div (K := ℚ), quotient, Nat.floor_natCast]
  refine exists_onGrid?_of_attracts itself counted ?_
  have value : value ⟨count, 0⟩ = binary.magnitude := by
    rw [value, same, zpow_zero, mul_one]
  rw [value]
  exact attracts_magnitude (significand_pos same counted)

/-- Short whole numbers have no places to spare. -/
theorem exponent_nonpos (regular : binary.IsRegular) (same : binary.magnitude = count)
    (short : count < 2 * unit) : binary.exponent ≤ 0 := by
  by_contra upward
  rw [not_le] at upward
  have long : unit ≤ binary.significand := by
    by_contra subnormal
    have least := regular.subnormal (not_le.1 subnormal)
    rw [leastExponent] at least
    omega
  have great : 2 * (unit : ℚ) ≤ count := by
    calc 2 * (unit : ℚ) = unit * 2 ^ (1 : ℤ) := by rw [zpow_one, mul_comm]
      _ ≤ binary.significand * 2 ^ binary.exponent := by
          gcongr
          · exact one_le_two
          · exact upward
      _ = count := same
  exact absurd short (not_lt.2 (by exact_mod_cast great))

/-- The first grid for a short whole number is coarser than the units, and few grids lie between. -/
theorem firstExponent_bounds (same : binary.magnitude = count) (counted : 0 < count)
    (short : count < 2 * unit) : 0 ≤ firstExponent binary ∧ firstExponent binary < 20 := by
  have one : (1 : ℚ) ≤ binary.significand * 2 ^ binary.exponent := by
    rw [← magnitude, same]
    exact_mod_cast counted
  constructor
  · unfold firstExponent
    split
    · exact Int.natCast_nonneg _
    · rename_i downward
      have whole : Nat.pow 2 (-binary.exponent).toNat ≤ binary.significand := by
        rw [← toNat_pow_div 2 binary.exponent, Int.toNat_of_nonpos (by omega : binary.exponent ≤ 0),
          pow_zero, mul_one_div, one_le_div (by positivity)] at one
        exact_mod_cast one
      dsimp only
      rw [if_pos whole]
      exact Int.natCast_nonneg _
  · have below : (10 : ℚ) ^ (firstExponent binary - 1) < 10 ^ (19 : ℤ) := by
      calc (10 : ℚ) ^ (firstExponent binary - 1)
          ≤ binary.significand * 2 ^ binary.exponent := firstExponent_le (significand_pos same counted)
        _ = count := same
        _ < 2 * unit := by exact_mod_cast short
        _ < 10 ^ (19 : ℤ) := by norm_num [unit]
    have ordered := (zpow_lt_zpow_iff_right₀ (by norm_num : (1 : ℚ) < 10)).1 below
    omega

/-- A decimal without a place behind the point is a whole number. -/
theorem value_of_nonneg (upward : 0 ≤ decimal.exponent) :
    decimal.value = (decimal.digits * 10 ^ decimal.exponent.toNat : Nat) := by
  obtain ⟨zeros, same⟩ := Int.eq_ofNat_of_zero_le upward
  rw [value, same, Int.toNat_natCast]
  push_cast
  rfl

/-- A number with no places to spare attracts no other whole number. -/
theorem eq_of_attracts {whole : Nat} (attracts : binary.Attracts whole)
    (same : binary.magnitude = count) (counted : 0 < count) (fine : binary.exponent ≤ 0) :
    whole = count := by
  have scale : (0 : ℚ) < 2 ^ binary.exponent := by positivity
  have place : (2 : ℚ) ^ binary.exponent ≤ 1 := zpow_le_one_of_nonpos₀ one_le_two fine
  have near : |((whole - count : Int) : ℚ)| < 1 := by
    calc |((whole - count : Int) : ℚ)|
        = |(whole : ℚ) / 2 ^ binary.exponent - binary.significand| * 2 ^ binary.exponent := by
          rw [← abs_of_pos scale, ← abs_mul, abs_of_pos scale, sub_mul, div_mul_cancel₀ _ scale.ne',
            ← magnitude, same]
          push_cast
          rfl
      _ ≤ 1 / 2 * 1 := by
          gcongr
          exact (attracts.near (significand_pos same counted)).1
      _ < 1 := by norm_num
  have nothing : (whole : Int) - count = 0 := by
    rw [← Int.abs_lt_one_iff]
    exact_mod_cast near
  omega

/-- The shortest decimal of a short whole number has its value, and no place behind the point. -/
theorem shortest_of_magnitude_eq (regular : binary.IsRegular) (same : binary.magnitude = count)
    (counted : 0 < count) (short : count < 2 * unit) :
    0 ≤ (shortest binary).exponent ∧ (shortest binary).value = count := by
  obtain ⟨least, few⟩ := firstExponent_bounds same counted short
  obtain ⟨exponent, upward, found⟩ :=
    exists_search_eq (exists_onGrid?_zero same counted) 20 _ least (by simpa using few)
  change onGrid? binary _ exponent = some (shortest binary) at found
  rw [← exponent_of_onGrid? found] at upward
  obtain ⟨-, attracts⟩ := attracts_of_onGrid? found
  rw [value_of_nonneg upward] at attracts ⊢
  rw [eq_of_attracts attracts same counted (exponent_nonpos regular same short)]
  exact ⟨upward, rfl⟩

/-- Zeros behind the digits of a number multiply it. -/
theorem toDigits_mul_pow {digits : Nat} (counted : 0 < digits) (zeros : Nat) :
    Nat.toDigits 10 (digits * 10 ^ zeros) = Nat.toDigits 10 digits ++ List.replicate zeros '0' := by
  induction zeros with
  | zero => rw [pow_zero, mul_one, List.replicate_zero, List.append_nil]
  | succ zeros ih =>
      rw [pow_succ, ← mul_assoc, mul_comm, ← add_zero (10 * _),
        ← Nat.toDigits_append_toDigits (by decide) (by positivity) (by decide), ih,
        Nat.toDigits_zero, List.append_assoc, ← List.replicate_succ']

/-- A decimal without a point is written with the digits of its value. -/
theorem positional_of_value_eq (upward : 0 ≤ decimal.exponent) (same : decimal.value = count)
    (counted : 0 < count) : decimal.positional = Nat.toDigits 10 count := by
  obtain rfl : decimal.digits * 10 ^ decimal.exponent.toNat = count := by
    rw [value_of_nonneg upward] at same
    exact_mod_cast same
  simp only [positional]
  rw [if_pos upward, toDigits_mul_pow (Nat.pos_of_mul_pos_right counted)]

end Decimal

namespace Numeral

/-- Only the two zeros equal zero. -/
theorem beq_zero_iff : (number == 0) = true ↔ Denotes number 0 := by
  constructor
  · intro same
    cases finite : Binary.isFinite number with
    | true =>
        rw [beq_zero_eq finite, decide_eq_true_eq] at same
        exact ⟨finite, value_eq_zero_iff.2 same⟩
    | false =>
        cases defined : number.isNaN with
        | true =>
            rw [Float.isNaN_eq_decide_eq_nan, decide_eq_true_eq] at defined
            rw [defined, Float.nan_beq_eq_false] at same
            cases same
        | false =>
            rw [Binary.eq_of_infinite finite defined] at same
            cases negative : Binary.isNegative number with
            | false | true =>
                rw [negative] at same
                cases same
  · intro denotes
    rw [beq_zero_eq denotes.finite, decide_eq_true (value_eq_zero_iff.1 denotes.value_eq)]

/-- The sign of zero is no part of the value. -/
theorem denotes_unsigned_iff {quantity : ℚ} :
    Denotes (if number == 0 then 0 else number) quantity ↔ Denotes number quantity := by
  split
  · rename_i zero
    have here := beq_zero_iff.1 zero
    have there : Denotes 0 0 := denotes_zero .positive
    constructor
    · intro denotes
      rwa [← denotes.value_eq, there.value_eq]
    · intro denotes
      rwa [← denotes.value_eq, here.value_eq]
  · exact Iff.rfl

/-- A short whole number is written with its digits alone. -/
theorem write_eq_repr (denotes : Denotes number count) (short : count < 2 * unit) :
    write number = Nat.repr count := by
  obtain ⟨finite, same⟩ := denotes
  rcases Nat.eq_zero_or_pos count with rfl | counted
  · rw [Nat.cast_zero, value_eq_zero_iff] at same
    rw [write_of_zero finite same]
    rfl
  · have unsigned : (ofFloat number).negative = false := by
      rw [Bool.eq_false_iff]
      intro negative
      have above : (0 : ℚ) < count := by exact_mod_cast counted
      rw [← same, value, if_pos negative] at above
      linarith [(ofFloat number).magnitude_nonneg]
    have magnitude : (ofFloat number).magnitude = count := by
      rw [← same, value, unsigned]
      rfl
    obtain ⟨upward, exact⟩ :=
      Decimal.shortest_of_magnitude_eq (isRegular_ofFloat finite) magnitude counted short
    rw [← String.toList_inj, write_of_finite finite
        ⟨isNaN_of_isFinite finite, (negative_ofFloat number).symm.trans unsigned⟩,
      if_neg (Decimal.significand_pos magnitude counted).ne',
      Decimal.positional_of_value_eq upward exact counted, Nat.repr_eq_ofList_toDigits,
      String.toList_ofList]

/-- Numbers are written like a short whole number only if they are that number. -/
theorem write_eq_repr_iff (short : count < 2 * unit) :
    write number = Nat.repr count ↔ Denotes number count := by
  refine ⟨fun written => ?_, fun denotes => write_eq_repr denotes short⟩
  -- Either text is taken for what it was written for, but for the sign of zero.
  have exact := denotes_ofNat short
  have taken := coerce_write number
  rw [written, ← write_eq_repr exact short, coerce_write] at taken
  rw [← denotes_unsigned_iff, ← taken, denotes_unsigned_iff]
  exact exact

end Numeral

end Parlance
