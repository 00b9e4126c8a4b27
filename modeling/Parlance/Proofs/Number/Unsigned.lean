import Mathlib
import Parlance.Number.Numeral
import Parlance.Proofs.Number.Parts

/-!
# Unsigned numbers

A number is unsigned if it is defined and carries no minus sign. Everything that is put together from
a significand and an exponent is, and sums of unsigned numbers are, as are their products with
positive finite ones. Finite unsigned numbers are determined by their significand and exponent.
-/

namespace Parlance

open Float.Model Float.Model.UnpackedFloat

namespace Binary

/-- The number is defined and carries no sign. -/
def IsUnsigned (number : Float) : Prop :=
  number.isNaN = false ∧ Binary.isNegative number = false

/-! ### Arithmetic -/

/-- Whether the parts are those of an unsigned number. -/
def hasNoSign : UnpackedFloat → Bool
  | .infinity .positive => true
  | .zero .positive => true
  | .finite .positive .. => true
  | _ => false

theorem unpackSign_eq (bits : BitVec 64) :
    Sign.ofBitVec (@unpackSign Format.binary64 bits) = .positive ↔ bits.toNat < 2 ^ 63 := by
  rw [unpackSign_def, Sign.ofBitVec, ite_eq_left_iff]
  simp [← BitVec.toNat_inj, BitVec.extractLsb'_toNat, Nat.shiftRight_eq_div_pow]
  have := bits.isLt
  omega

theorem isUnsigned_iff {number : Float} :
    IsUnsigned number ↔ hasNoSign number.toModel.unpack = true := by
  have sign := unpackSign_eq number.toModel.toBits.toBitVec
  have parts : ∀ bits : BitVec 64,
      (UnpackedFloat.unpack Format.binary64 bits).isNaN = false ∧
        Sign.ofBitVec (@unpackSign Format.binary64 bits) = .positive ↔
      hasNoSign (UnpackedFloat.unpack Format.binary64 bits) = true := by
    intro bits
    unfold UnpackedFloat.unpack
    extract_lets mantissa exponentBits exponent signBit sign
    change _ ∧ sign = .positive ↔ _
    generalize sign = sign
    split
    · split <;> cases sign <;> simp [UnpackedFloat.isNaN, hasNoSign]
    · split
      · split <;> cases sign <;> simp [UnpackedFloat.isNaN, hasNoSign]
      · cases sign <;> simp [UnpackedFloat.isNaN, hasNoSign]
  rw [IsUnsigned, isNegative, decide_eq_false_iff_not, Nat.not_le]
  exact Iff.trans (and_congr Iff.rfl sign.symm) (parts number.toModel.toBits.toBitVec)

theorem hasNoSign_iff {parts : UnpackedFloat} :
    hasNoSign parts = true ↔ HasSign .positive parts := by
  match parts with
  | .notANumber => exact iff_of_false nofun id
  | .infinity .positive | .zero .positive | .finite .positive .. => exact iff_of_true rfl rfl
  | .infinity .negative | .zero .negative | .finite .negative .. => exact iff_of_false nofun nofun

/-- Packing keeps the sign. -/
theorem hasNoSign_pack {parts : UnpackedFloat} (unsigned : hasNoSign parts = true) :
    hasNoSign (Float.Model.pack parts).unpack = true :=
  hasNoSign_iff.2 (hasNoSign_iff.1 unsigned).pack

theorem hasNoSign_round (mantissa : Nat) (exponent : Int) (accuracy : Accuracy) :
    hasNoSign (roundWithAccuracy Format.binary64 .positive mantissa exponent accuracy) = true :=
  hasNoSign_iff.2 (hasSign_roundWithAccuracy ..)

theorem hasNoSign_normalize {mantissa : Int} (exponent : Int) (unsigned : 0 ≤ mantissa) :
    hasNoSign (UnpackedFloat.normalize Format.binary64 mantissa exponent .positive) = true := by
  unfold UnpackedFloat.normalize
  split
  · rename_i negative
    exact absurd (Int.compare_eq_lt.1 negative) (by omega)
  · rfl
  · exact hasNoSign_round ..

/-- Products with a finite number are defined. -/
theorem hasNoSign_mul {parts : UnpackedFloat} {mantissa : Nat} {exponent : Int}
    (unsigned : hasNoSign parts = true) (positive : 0 < mantissa) :
    hasNoSign (UnpackedFloat.mul Format.binary64 parts
      (.finite .positive mantissa exponent positive)) = true := by
  cases parts with
  | notANumber => cases unsigned
  | infinity sign =>
      cases sign with
      | negative => cases unsigned
      | positive => rfl
  | zero sign =>
      cases sign with
      | negative => cases unsigned
      | positive => rfl
  | finite sign =>
      cases sign with
      | negative => cases unsigned
      | positive => exact hasNoSign_round _ _ _

/-- Sums of unsigned numbers are unsigned. -/
theorem hasNoSign_add {left right : UnpackedFloat} (unsigned : hasNoSign left = true)
    (unsignedToo : hasNoSign right = true) :
    hasNoSign (UnpackedFloat.add Format.binary64 left right) = true := by
  match left, right, unsigned, unsignedToo with
  | .infinity .positive, .infinity .positive, _, _ => rfl
  | .infinity .positive, .zero .positive, _, _ => rfl
  | .infinity .positive, .finite .positive .., _, _ => rfl
  | .zero .positive, .infinity .positive, _, _ => rfl
  | .zero .positive, .zero .positive, _, _ => rfl
  | .zero .positive, .finite .positive .., _, _ => rfl
  | .finite .positive .., .infinity .positive, _, _ => rfl
  | .finite .positive .., .zero .positive, _, _ => rfl
  | .finite .positive mantissa exponent _, .finite .positive other otherExponent _, _, _ =>
      exact hasNoSign_normalize _ (Int.add_nonneg (Int.natCast_nonneg _) (Int.natCast_nonneg _))

/-- One step of reading hexadecimal digits. -/
theorem IsUnsigned.mul_add {total : Float} (unsigned : IsUnsigned total) {digit : Nat}
    (small : digit < 16) : IsUnsigned (total * 16 + Float.ofNat digit) := by
  rw [isUnsigned_iff] at unsigned ⊢
  have digits : ∀ digit < 16, hasNoSign (Float.ofNat digit).toModel.unpack = true := by
    decide +kernel
  have scaled : hasNoSign (total * 16).toModel.unpack = true :=
    hasNoSign_pack (hasNoSign_mul unsigned (by decide))
  exact hasNoSign_pack (hasNoSign_add scaled (digits digit small))

/-! ### Bits -/

/-- The bits of infinity, the greatest of all unsigned numbers. -/
def infiniteBits : Nat := 2047 * unit

theorem zero_eq : (0 : Float) = Float.ofBits (Nat.toUInt64 0) := by
  rfl

theorem infinity_eq : infinity = Float.ofBits infiniteBits.toUInt64 := by
  rfl

/-- Bits up to those of infinity are kept. -/
theorem toBits_ofBits {bits : Nat} (bounded : bits ≤ infiniteBits) :
    (Float.ofBits bits.toUInt64).toBits.toNat = bits := by
  have short : bits < 2 ^ 64 := by simp [infiniteBits, unit] at bounded; omega
  have same : bits.toUInt64.toBitVec.toNat = bits := by
    rw [UInt64.toNat_toBitVec, UInt64.toNat_ofNat_of_lt' short]
  have defined : @isNaNBits Format.binary64 bits.toUInt64.toBitVec = false := by
    rw [isNaNBits, decide_eq_false_iff_not, unpackExponent_def, unpackMantissa_def]
    rintro ⟨full, nonzero⟩
    have full := congrArg BitVec.toNat full
    have nonzero := mt BitVec.toNat_inj.1 nonzero
    simp [BitVec.extractLsb'_toNat, Nat.shiftRight_eq_div_pow, same, infiniteBits, unit]
      at full nonzero bounded
    omega
  have packed := @pack_unpack Format.binary64 bits.toUInt64.toBitVec
  rw [defined] at packed
  exact (congrArg BitVec.toNat packed).trans same

theorem isUnsigned_ofBits {bits : Nat} (bounded : bits ≤ infiniteBits) :
    IsUnsigned (Float.ofBits bits.toUInt64) := by
  have same := toBits_ofBits bounded
  constructor
  · rw [Float.isNaN_eq_decide_eq_nan, decide_eq_false_iff_not]
    intro undefinedToo
    rw [undefinedToo] at same
    have code : Float.nan.toBits.toNat = 0x7FF8000000000000 := by decide +kernel
    rw [code] at same
    simp [infiniteBits, unit] at bounded
    omega
  · rw [isNegative, same, decide_eq_false_iff_not]
    simp [infiniteBits, unit] at bounded ⊢
    omega

theorem isUnsigned_zero : IsUnsigned 0 := by
  rw [zero_eq]
  exact isUnsigned_ofBits (Nat.zero_le _)

theorem isUnsigned_infinity : IsUnsigned infinity := by
  rw [infinity_eq]
  exact isUnsigned_ofBits le_rfl

/-- Rounded quotients are unsigned. -/
theorem isUnsigned_nearest (numerator : Nat) {denominator : Nat} (positive : 0 < denominator) :
    IsUnsigned (nearest numerator denominator) := by
  unfold nearest
  split
  · exact isUnsigned_zero
  · rename_i counted
    have short := roundQuotient_le ((scaled_lt_iff numerator _ positive).2
      (exponentFor_spec (Nat.pos_of_ne_zero counted) positive).1)
    dsimp only
    set rounded := roundQuotient _ _
    generalize exponentFor numerator denominator = exponent
    have pair : (if rounded = 2 * unit then (unit, exponent + 1) else (rounded, exponent)).1 <
        2 * unit := by
      have := unit_pos
      split <;> dsimp only <;> omega
    generalize (if rounded = 2 * unit then (unit, exponent + 1) else (rounded, exponent)) = parts
      at pair
    obtain ⟨significand, exponent⟩ := parts
    dsimp only at pair ⊢
    split
    · exact isUnsigned_infinity
    · rename_i inRange
      simp only [unit, greatestExponent] at pair inRange
      split
      · refine isUnsigned_ofBits ?_
        simp [infiniteBits, unit] at *
        omega
      · refine isUnsigned_ofBits ?_
        simp [infiniteBits, unit] at *
        omega

/-! ### Parts -/

variable {number : Float}

theorem isUnsigned_neg (finite : isFinite number = true) (negative : isNegative number = true) :
    isFinite (-number) = true ∧ IsUnsigned (-number) := by
  have finiteToo := (neg_spec finite).1
  refine ⟨finiteToo, isNaN_of_isFinite finiteToo, ?_⟩
  rw [isNegative_neg finite, negative]
  rfl

/-- A finite unsigned number is regular, and its parts give it back. -/
theorem ofFloat_spec (finite : isFinite number = true) (unsigned : IsUnsigned number) :
    (ofFloat number).IsRegular ∧ (ofFloat number).negative = false ∧
      Float.ofBits (ofFloat number).bits.toUInt64 = number := by
  refine ⟨isRegular_ofFloat finite, (negative_ofFloat number).trans unsigned.2, ?_⟩
  rw [bits_ofFloat unsigned.2, Nat.toUInt64_eq, UInt64.ofNat_toNat, Float.ofBits_toBits]

end Binary

end Parlance
