import Mathlib
import Parlance.Proofs.Number.Exactness

/-!
# Cutting numbers to whole numbers

The whole part of a finite number is its value rounded towards zero. There is a number with this value,
and a conversion to a word gives the whole part, kept between zero and the greatest word.
-/

namespace Parlance

open Float.Model Float.Model.UnpackedFloat

namespace Binary

variable {number : Float} {binary : Binary}

theorem value_opposite (binary : Binary) : binary.opposite.value = -binary.value := by
  rw [value, value, opposite]
  cases binary.negative with
  | false => rfl
  | true => exact (neg_neg _).symm

/-- Negation negates the value. -/
theorem Denotes.neg {quantity : ℚ} (denotes : Denotes number quantity) :
    Denotes (-number) (-quantity) := by
  obtain ⟨finite, rfl⟩ := denotes
  obtain ⟨finiteToo, parts⟩ := neg_spec finite
  exact ⟨finiteToo, by rw [parts, value_opposite]⟩

/-! ### Truncation -/

/-- Shifting the significand leaves the whole part of the magnitude. -/
theorem floor_magnitude (binary : Binary) :
    ⌊binary.magnitude⌋₊ =
      binary.significand <<< binary.exponent.toNat >>> (-binary.exponent).toNat := by
  have power : (2 : ℚ) ^ binary.exponent =
      2 ^ binary.exponent.toNat / 2 ^ (-binary.exponent).toNat := by
    rw [← zpow_natCast, ← zpow_natCast, ← zpow_sub₀ two_ne_zero]
    congr 1
    omega
  have quotient : binary.magnitude =
      ((binary.significand * 2 ^ binary.exponent.toNat : Nat) : ℚ) /
        (2 ^ (-binary.exponent).toNat : Nat) := by
    rw [magnitude, power]
    push_cast
    ring
  rw [quotient, Nat.floor_div_eq_div, Nat.shiftLeft_eq, Nat.shiftRight_eq_div_pow]

theorem truncated_eq (binary : Binary) : binary.truncated =
    if binary.negative then -(⌊binary.magnitude⌋₊ : Int) else ⌊binary.magnitude⌋₊ := by
  rw [floor_magnitude]
  rfl

/-- Truncation is towards zero. -/
theorem truncated_spec (binary : Binary) :
    binary.truncated = if 0 ≤ binary.value then ⌊binary.value⌋ else ⌈binary.value⌉ := by
  have least := binary.magnitude_nonneg
  rw [truncated_eq, value, Int.natCast_floor_eq_floor least]
  by_cases negative : binary.negative = true
  · rw [if_pos negative, if_pos negative, Int.ceil_neg]
    split
    · rename_i above
      rw [le_antisymm (neg_nonneg.1 above) least]
      rfl
    · rfl
  · rw [if_neg negative, if_neg negative, if_pos least]

/-- Nothing is cut from a whole number. -/
theorem truncated_of_value_eq {whole : Int} (same : binary.value = whole) :
    binary.truncated = whole := by
  rw [truncated_spec, same, Int.floor_intCast, Int.ceil_intCast, ite_self]

theorem Denotes.truncated_eq {whole : Int} (denotes : Denotes number whole) :
    (ofFloat number).truncated = whole :=
  truncated_of_value_eq denotes.value_eq

/-- The number without its fraction is exact. -/
theorem denotes_whole (finite : isFinite number = true) :
    Denotes (whole number) (ofFloat number).truncated := by
  have regular := isRegular_ofFloat finite
  unfold whole
  dsimp only
  split
  · rename_i complete
    rw [finite, Bool.not_true, Bool.false_or, decide_eq_true_eq] at complete
    obtain ⟨exponent, same⟩ := Int.eq_ofNat_of_zero_le complete
    refine ⟨finite, ?_⟩
    have places : (ofFloat number).magnitude =
        ((ofFloat number).significand * 2 ^ exponent : Nat) := by
      rw [magnitude, same]
      push_cast
      rfl
    rw [Binary.truncated_eq, value, places, Nat.floor_natCast]
    push_cast
    split
    · rfl
    · rfl
  · rename_i broken
    rw [finite, Bool.not_true, Bool.false_or, decide_eq_true_eq, not_le] at broken
    have short : (ofFloat number).significand >>> (-(ofFloat number).exponent).toNat < 2 * unit :=
      (Nat.shiftRight_le ..).trans_lt regular.short
    have magnitude := denotes_ofNat short
    rw [truncated, Int.toNat_of_nonpos broken.le, Nat.shiftLeft_zero]
    split
    · rw [Int.cast_neg]
      exact magnitude.neg
    · exact magnitude

theorem whole_of_infinite (infinite : isFinite number = false) : whole number = number := by
  rw [whole, infinite]
  rfl

/-! ### Conversion -/

theorem roundToInt_eq (binary : Binary) :
    roundToInt (signOf binary.negative) binary.significand binary.exponent = binary.truncated := by
  have places : (0 - (binary.exponent - (binary.exponent.toNat : Int))).toNat =
      (-binary.exponent).toNat := by
    omega
  simp only [roundToInt, decreaseExponent, shiftToExponent, sub_zero, places,
    ExtendedMantissa.ofMantissaAndAccuracy, mantissa_shiftRight, apply_signOf]
  rw [← Nat.shiftRight_eq_div_pow]
  rfl

theorem truncated_of_zero (nothing : binary.significand = 0) : binary.truncated = 0 :=
  truncated_of_value_eq (by rw [value_eq_zero_iff.2 nothing, Int.cast_zero])

/-- Rounding to a whole number cuts what is behind the point. -/
theorem toInt_of_isFinite (finite : isFinite number = true) (least greatest : Int) :
    toInt least greatest number.toModel.unpack = (ofFloat number).truncated := by
  rw [unpack_of_isFinite finite, unpacked]
  split
  · exact roundToInt_eq _
  · rename_i nothing
    exact (truncated_of_zero (Nat.eq_zero_of_not_pos nothing)).symm

/-- The greatest word of 64 bits. -/
def greatestWord : Nat := 2 ^ 64 - 1

theorem toNat_ofNatClamp (count : Nat) :
    (UInt64.ofNatClamp count).toNat = min count greatestWord := by
  have size : UInt64.size = 2 ^ 64 := rfl
  unfold UInt64.ofNatClamp greatestWord
  split
  · rw [UInt64.toNat_ofNatLT]
    omega
  · rw [UInt64.toNat_ofNatLT]
    omega

theorem toNat_toUInt64 (number : Float) : number.toUInt64.toNat =
    min (toInt 0 greatestWord number.toModel.unpack).toNat greatestWord :=
  toNat_ofNatClamp _

/-- Words are cut at both ends. -/
theorem Denotes.toNat_toUInt64 {whole : Int} (denotes : Denotes number whole) :
    number.toUInt64.toNat = min whole.toNat greatestWord := by
  rw [Binary.toNat_toUInt64, toInt_of_isFinite denotes.finite, denotes.truncated_eq]

/-- With a minus sign, nothing is left. -/
theorem toNat_toInt_of_hasSign {parts : UnpackedFloat} (has : HasSign .negative parts) :
    (toInt 0 greatestWord parts).toNat = 0 := by
  apply Int.toNat_of_nonpos
  match parts, has with
  | .infinity _, rfl | .zero _, rfl => exact le_rfl
  | .finite _ mantissa exponent _, rfl =>
      exact Int.neg_nonpos_of_nonneg (Int.natCast_nonneg _)

theorem toNat_toUInt64_of_hasSign (has : HasSign .negative number.toModel.unpack) :
    number.toUInt64.toNat = 0 := by
  rw [toNat_toUInt64, toNat_toInt_of_hasSign has, Nat.zero_min]

/-! ### Zero -/

theorem lt_zero_iff :
    number < 0 ↔ number.toModel.unpack.compare (.zero .positive) = some .lt :=
  decide_eq_true_iff.trans beq_iff_eq

/-- A finite number is below zero if its value is. -/
theorem Denotes.lt_zero_iff {quantity : ℚ} (denotes : Denotes number quantity) :
    number < 0 ↔ quantity < 0 := by
  obtain ⟨finite, rfl⟩ := denotes
  rw [Binary.lt_zero_iff, unpack_of_isFinite finite, unpacked, value]
  generalize ofFloat number = binary
  split
  · rename_i counted
    have positive := magnitude_pos counted
    cases binary.negative with
    | false => exact iff_of_false (by rintro ⟨⟩) (not_lt.2 positive.le)
    | true => exact iff_of_true rfl (neg_neg_iff_pos.2 positive)
  · rename_i nothing
    have zero := magnitude_eq_zero_iff.2 (Nat.eq_zero_of_not_pos nothing)
    rw [zero, neg_zero, ite_self]
    exact iff_of_false (by rintro ⟨⟩) (lt_irrefl _)

/-- What is at most zero converts to zero, so that it makes no difference. -/
theorem toNat_toUInt64_max_zero (number : Float) :
    (max number 0).toUInt64.toNat = number.toUInt64.toNat := by
  change (if number ≤ 0 then (0 : Float) else number).toUInt64.toNat = _
  split
  · rename_i least
    have ordered : Option.any (·.isLE) (number.toModel.unpack.compare (.zero .positive)) = true :=
      of_decide_eq_true least
    have nothing : (toInt 0 greatestWord number.toModel.unpack).toNat = 0 := by
      match number.toModel.unpack, ordered with
      | .zero _, _ => rfl
      | .infinity .negative, _ | .finite .negative .., _ => exact toNat_toInt_of_hasSign rfl
    rw [toNat_toUInt64 number, nothing]
    rfl
  · rfl

end Binary

end Parlance
