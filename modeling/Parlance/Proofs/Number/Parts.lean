import Mathlib
import Parlance.Proofs.Number.Rounding

/-!
# Parts of finite numbers

A finite number is its sign, its significand and its exponent: it is unpacked to these parts, and all
regular parts are those of a finite number. Rounding and packing keep the sign, and negation turns it
over. The two infinities are the only other numbers that are defined.
-/

namespace Parlance

open Float.Model Float.Model.UnpackedFloat

namespace Binary

/-- The sign of a number that is negative or not. -/
def signOf (negative : Bool) : Sign := if negative then .negative else .positive

/-- The number in unpacked form. -/
def unpacked (binary : Binary) : UnpackedFloat :=
  if counted : 0 < binary.significand then
    .finite (signOf binary.negative) binary.significand binary.exponent counted
  else .zero (signOf binary.negative)

variable {number : Float} {binary : Binary}

/-! ### Components -/

/-- The parts that a sign and the two bit fields of a finite number stand for. -/
def ofComponents (negative : Bool) (exponent : BitVec 11) (mantissa : BitVec 52) : Binary :=
  if exponent = 0#11 then ⟨negative, mantissa.toNat, leastExponent⟩
  else ⟨negative, unit + mantissa.toNat, (exponent.toNat : Int) - 1075⟩

variable {negative : Bool} {exponent : BitVec 11} {mantissa : BitVec 52}

/-- The code of components. -/
theorem toNat_packComponents (sign : Sign) (exponent : BitVec 11) (mantissa : BitVec 52) :
    (packComponents Format.binary64 sign exponent mantissa).toNat =
      (sign.toBitVec.toNat * 2048 + exponent.toNat) * unit + mantissa.toNat := by
  unfold packComponents
  rw [BitVec.toNat_append, BitVec.toNat_append, ← Nat.shiftLeft_add_eq_or_of_lt mantissa.isLt,
    ← Nat.shiftLeft_add_eq_or_of_lt exponent.isLt, Nat.shiftLeft_eq, Nat.shiftLeft_eq]
  rfl

/-- The number has these components. -/
def HasComponents (number : Float) (negative : Bool) (exponent : BitVec 11)
    (mantissa : BitVec 52) : Prop :=
  number.toModel.toBits.toBitVec =
    packComponents Format.binary64 (signOf negative) exponent mantissa

theorem exists_signOf (sign : Sign) : ∃ negative, signOf negative = sign := by
  cases sign with
  | negative => exact ⟨true, rfl⟩
  | positive => exact ⟨false, rfl⟩

theorem exists_components (number : Float) :
    ∃ negative exponent mantissa, HasComponents number negative exponent mantissa := by
  have code := @packComponents_unpackSign_unpackExponent_unpackMantissa Format.binary64
    number.toModel.toBits.toBitVec
  obtain ⟨negative, isSign⟩ := exists_signOf
    (Sign.ofBitVec (@unpackSign Format.binary64 number.toModel.toBits.toBitVec))
  rw [← isSign] at code
  exact ⟨negative, _, _, code.symm⟩

namespace HasComponents

variable (has : HasComponents number negative exponent mantissa)
include has

theorem toBits_eq :
    number.toBits.toNat = (negative.toNat * 2048 + exponent.toNat) * unit + mantissa.toNat := by
  have code := congrArg BitVec.toNat has
  rw [toNat_packComponents] at code
  cases negative with
  | false => exact code
  | true => exact code

theorem fields : number.toBits.toNat % unit = mantissa.toNat ∧
    number.toBits.toNat / unit % 2048 = exponent.toNat ∧
    isNegative number = negative := by
  have code := has.toBits_eq
  have fraction : mantissa.toNat < unit := mantissa.isLt
  have field : exponent.toNat < 2048 := exponent.isLt
  have size : unit = 4503599627370496 := rfl
  have whole : number.toBits.toNat / unit = negative.toNat * 2048 + exponent.toNat := by
    rw [code, Nat.mul_comm, Nat.mul_add_div unit_pos, Nat.div_eq_of_lt fraction, Nat.add_zero]
  refine ⟨?_, ?_, ?_⟩
  · rw [code, Nat.mul_add_mod_of_lt fraction]
  · omega
  · rw [isNegative, code, size, Nat.pow_eq]
    cases negative with
    | false => exact decide_eq_false (by simp only [Bool.toNat_false]; omega)
    | true => exact decide_eq_true (by simp only [Bool.toNat_true]; omega)

theorem isFinite_iff : isFinite number = true ↔ exponent ≠ -1#11 := by
  have bits : exponent.toNat = 2047 ↔ exponent = -1#11 := BitVec.toNat_inj (y := -1#11)
  rw [isFinite, has.fields.2.1, bne_iff_ne, ne_eq, bits]

theorem ofFloat_eq : ofFloat number = ofComponents negative exponent mantissa := by
  obtain ⟨fraction, field, sign⟩ := has.fields
  have least : exponent.toNat = 0 ↔ exponent = 0#11 := BitVec.toNat_inj (y := 0#11)
  rw [isNegative] at sign
  simp only [ofFloat, fraction, field, sign, ofComponents, least]

theorem unpack_eq : number.toModel.unpack =
    UnpackedFloat.unpack Format.binary64
      (packComponents Format.binary64 (signOf negative) exponent mantissa) :=
  congrArg (UnpackedFloat.unpack Format.binary64) has

end HasComponents

/-- Components of a finite number are unpacked to the parts that they stand for. -/
theorem unpack_packComponents (finite : exponent ≠ -1#11) :
    UnpackedFloat.unpack Format.binary64
      (packComponents Format.binary64 (signOf negative) exponent mantissa) =
      (ofComponents negative exponent mantissa).unpacked := by
  have implicit : (1#1 ++ mantissa).toNat = unit + mantissa.toNat := by
    rw [BitVec.toNat_append, ← Nat.shiftLeft_add_eq_or_of_lt mantissa.isLt, Nat.shiftLeft_eq]
    rfl
  have bias : Format.binary64.exponentBias = 1023 := rfl
  have size : unit = 4503599627370496 := rfl
  unfold UnpackedFloat.unpack
  simp only [unpackExponent_packComponents, unpackMantissa_packComponents,
    unpackSign_packComponents, Sign.ofBitVec_toBitVec]
  rw [if_neg finite, ofComponents]
  split
  · rename_i least
    subst least
    split
    · rename_i nothing
      subst nothing
      rfl
    · rename_i something
      have counted : 0 < mantissa.toNat :=
        Nat.pos_of_ne_zero ((BitVec.toNat_inj (y := 0#52)).not.2 something)
      rw [unpacked, dif_pos counted]
      rfl
  · rw [unpacked, dif_pos (by dsimp only; omega)]
    congr 1

/-- Components of a finite number stand for regular parts. -/
theorem isRegular_ofComponents (finite : exponent ≠ -1#11) :
    (ofComponents negative exponent mantissa).IsRegular := by
  have fraction : mantissa.toNat < unit := mantissa.isLt
  have field : exponent.toNat ≠ 2047 := (BitVec.toNat_inj (y := -1#11)).not.2 finite
  have bits := exponent.isLt
  have size : unit = 4503599627370496 := rfl
  unfold ofComponents
  split
  · exact ⟨fraction.trans_le (Nat.le_mul_of_pos_left _ two_pos), le_rfl,
      (by decide : leastExponent ≤ greatestExponent), fun _ => rfl⟩
  · rename_i above
    have above : exponent.toNat ≠ 0 := (BitVec.toNat_inj (y := 0#11)).not.2 above
    refine ⟨?_, ?_, ?_, fun small => absurd small (Nat.not_lt.2 (Nat.le_add_right ..))⟩
    · dsimp only
      omega
    · simp only [leastExponent]
      omega
    · simp only [greatestExponent]
      omega

/-- Regular parts have components. -/
theorem exists_ofComponents (regular : binary.IsRegular) :
    ∃ exponent mantissa, exponent ≠ -1#11 ∧
      ofComponents binary.negative exponent mantissa = binary := by
  obtain ⟨negative, significand, exponent⟩ := binary
  obtain ⟨short, least, greatest, subnormal⟩ := regular
  dsimp only at *
  have size : unit = 4503599627370496 := rfl
  by_cases small : significand < unit
  · refine ⟨0#11, BitVec.ofNat 52 significand, by decide, ?_⟩
    rw [ofComponents, if_pos rfl, BitVec.toNat_ofNat, subnormal small]
    congr 1
    exact Nat.mod_eq_of_lt small
  · simp only [leastExponent, greatestExponent] at least greatest
    have field : (BitVec.ofNat 11 (exponent + 1075).toNat).toNat = (exponent + 1075).toNat := by
      rw [BitVec.toNat_ofNat, Nat.mod_eq_of_lt (by omega)]
    have fraction : (BitVec.ofNat 52 (significand - unit)).toNat = significand - unit := by
      rw [BitVec.toNat_ofNat, Nat.mod_eq_of_lt (by omega)]
    generalize BitVec.ofNat 11 (exponent + 1075).toNat = exponentBits at field
    generalize BitVec.ofNat 52 (significand - unit) = mantissa at fraction
    have full : exponentBits.toNat ≠ (-1#11).toNat := by
      have code : (-1#11).toNat = 2047 := rfl
      omega
    have nothing : exponentBits.toNat ≠ (0#11).toNat := by
      have code : (0#11).toNat = 0 := rfl
      omega
    refine ⟨exponentBits, mantissa, BitVec.toNat_inj.not.1 full, ?_⟩
    rw [ofComponents, if_neg (BitVec.toNat_inj.not.1 nothing), field, fraction, Binary.mk.injEq]
    exact ⟨rfl, by omega, by omega⟩

/-! ### Parts -/

theorem exists_hasComponents (negative : Bool) (exponent : BitVec 11) (mantissa : BitVec 52)
    (finite : exponent ≠ -1#11) : ∃ number, HasComponents number negative exponent mantissa := by
  refine ⟨Float.ofBits (UInt64.ofBitVec
    (packComponents Format.binary64 (signOf negative) exponent mantissa)), ?_⟩
  have proper : isNaNBits
      (packComponents Format.binary64 (signOf negative) exponent mantissa) = false := by
    rw [isNaNBits, unpackExponent_packComponents, decide_eq_false_iff_not]
    exact fun full => finite full.1
  refine (pack_unpack _).trans ?_
  rw [proper]
  rfl

/-- A finite number is unpacked to its parts. -/
theorem unpack_of_isFinite (finite : isFinite number = true) :
    number.toModel.unpack = (ofFloat number).unpacked := by
  obtain ⟨negative, exponent, mantissa, has⟩ := exists_components number
  rw [has.unpack_eq, unpack_packComponents (has.isFinite_iff.1 finite), has.ofFloat_eq]

theorem isRegular_ofFloat (finite : isFinite number = true) : (ofFloat number).IsRegular := by
  obtain ⟨negative, exponent, mantissa, has⟩ := exists_components number
  rw [has.ofFloat_eq]
  exact isRegular_ofComponents (has.isFinite_iff.1 finite)

/-- Regular parts are those of a number. -/
theorem IsRegular.exists_ofFloat_eq (regular : binary.IsRegular) :
    ∃ number, isFinite number = true ∧ ofFloat number = binary := by
  obtain ⟨exponent, mantissa, finite, isParts⟩ := exists_ofComponents regular
  obtain ⟨number, has⟩ := exists_hasComponents binary.negative exponent mantissa finite
  exact ⟨number, has.isFinite_iff.2 finite, has.ofFloat_eq.trans isParts⟩

/-- Numbers that are unpacked alike are the same. -/
theorem eq_of_unpack_eq {other : Float} (same : number.toModel.unpack = other.toModel.unpack) :
    number = other := by
  have code := (unpack_inj_of_valid number.toModel.valid other.toModel.valid).1 same
  exact Float.toBits_inj.1 (UInt64.toBitVec_inj.1 code)

/-- Packing what is unpacked gives it back. -/
theorem pack_unpack_eq (number : Float) : Float.Model.pack number.toModel.unpack = number.toModel :=
  congrArg Float.toModel (Float.ofBits_toBits number)

/-- What is packed from regular parts is finite and has these parts. -/
theorem IsRegular.pack_spec (regular : binary.IsRegular) :
    isFinite ⟨Float.Model.pack binary.unpacked⟩ = true ∧
      ofFloat ⟨Float.Model.pack binary.unpacked⟩ = binary := by
  obtain ⟨number, finite, rfl⟩ := regular.exists_ofFloat_eq
  rw [← unpack_of_isFinite finite, pack_unpack_eq]
  exact ⟨finite, rfl⟩

theorem negative_ofFloat (number : Float) : (ofFloat number).negative = isNegative number := by
  unfold ofFloat
  extract_lets
  split
  · rfl
  · rfl

theorem isNaN_of_isFinite (finite : isFinite number = true) : number.isNaN = false := by
  change number.toModel.unpack.isNaN = false
  rw [unpack_of_isFinite finite, unpacked]
  split
  · rfl
  · rfl

/-- Without a sign, the bits of the parts are those of the number. -/
theorem bits_ofFloat (unsigned : isNegative number = false) :
    (ofFloat number).bits = number.toBits.toNat := by
  obtain ⟨negative, exponent, mantissa, has⟩ := exists_components number
  have fraction : mantissa.toNat < unit := mantissa.isLt
  rw [has.fields.2.2] at unsigned
  rw [has.ofFloat_eq, has.toBits_eq, unsigned, Bool.toNat_false, zero_mul, zero_add, ofComponents]
  split
  · rename_i least
    rw [bits, if_pos fraction, least, BitVec.toNat_zero, zero_mul, zero_add]
  · rw [bits, if_neg (Nat.not_lt.2 (Nat.le_add_right ..))]
    dsimp only
    rw [sub_add_cancel, Int.toNat_natCast, Nat.add_sub_cancel_left]

/-- A number that is defined and not finite is infinite, with or without a sign. -/
theorem unpack_of_infinite (infinite : isFinite number = false) (defined : number.isNaN = false) :
    number.toModel.unpack = .infinity (signOf (isNegative number)) := by
  obtain ⟨negative, exponent, mantissa, has⟩ := exists_components number
  have full : exponent = -1#11 :=
    not_not.1 (has.isFinite_iff.not.1 (Bool.eq_false_iff.1 infinite))
  have unpacks := has.unpack_eq
  change number.toModel.unpack.isNaN = false at defined
  rw [has.fields.2.2]
  unfold UnpackedFloat.unpack at unpacks
  simp only [unpackExponent_packComponents, unpackMantissa_packComponents,
    unpackSign_packComponents, Sign.ofBitVec_toBitVec] at unpacks
  rw [if_pos full] at unpacks
  split at unpacks
  · exact unpacks
  · rw [unpacks] at defined
    cases defined

/-! ### Signs -/

variable {sign : Sign}

/-- The unpacked number is defined and carries this sign. -/
def HasSign (sign : Sign) : UnpackedFloat → Prop
  | .notANumber => False
  | .infinity own => own = sign
  | .zero own => own = sign
  | .finite own .. => own = sign

/-- Components carry their sign, unless they are those of an undefined result. -/
theorem hasSign_packComponents (defined : exponent = -1 → mantissa = 0) :
    HasSign sign (UnpackedFloat.unpack Format.binary64
      (packComponents Format.binary64 sign exponent mantissa)) := by
  unfold UnpackedFloat.unpack
  simp only [unpackExponent_packComponents, unpackMantissa_packComponents,
    unpackSign_packComponents, Sign.ofBitVec_toBitVec]
  split
  · rename_i full
    have nothing : mantissa = 0#52 := defined full
    rw [if_pos nothing]
    rfl
  · split
    · split
      · rfl
      · rfl
    · rfl

/-- Packing keeps the sign. -/
theorem HasSign.pack {parts : UnpackedFloat} (has : HasSign sign parts) :
    HasSign sign (Float.Model.pack parts).unpack := by
  change HasSign sign (UnpackedFloat.unpack Format.binary64
    (UnpackedFloat.pack Format.binary64 parts))
  match parts, has with
  | .infinity _, rfl => exact hasSign_packComponents fun _ => rfl
  | .zero _, rfl => exact hasSign_packComponents fun _ => rfl
  | .finite _ mantissa exponent positive, rfl =>
      unfold UnpackedFloat.pack
      extract_lets digits biased
      split
      · exact hasSign_packComponents fun _ => rfl
      · rename_i inRange
        split
        · refine hasSign_packComponents fun full => ?_
          have codes := congrArg BitVec.toNat full
          simp [BitVec.toNat_ofNat] at codes inRange
          omega
        · exact hasSign_packComponents fun full => absurd full (by decide)

/-- Rounding keeps the sign. -/
theorem hasSign_roundWithAccuracy (sign : Sign) (mantissa : Nat) (exponent : Int)
    (accuracy : Accuracy) :
    HasSign sign (roundWithAccuracy Format.binary64 sign mantissa exponent accuracy) := by
  simp only [roundWithAccuracy]
  split
  · rfl
  · rfl

/-! ### Negation -/

@[simp]
theorem signOf_not (negative : Bool) : signOf (!negative) = -signOf negative := by
  cases negative with
  | false => rfl
  | true => rfl

/-- The number with the other sign. -/
def opposite (binary : Binary) : Binary := { binary with negative := !binary.negative }

@[simp]
theorem significand_opposite (binary : Binary) : binary.opposite.significand = binary.significand :=
  rfl

theorem IsRegular.opposite (regular : binary.IsRegular) : binary.opposite.IsRegular :=
  ⟨regular.short, regular.least, regular.greatest, regular.subnormal⟩

theorem neg_unpacked (binary : Binary) : binary.unpacked.neg = binary.opposite.unpacked := by
  unfold unpacked
  split
  · rename_i counted
    rw [dif_pos (show 0 < binary.opposite.significand from counted)]
    exact congrArg (UnpackedFloat.finite · _ _ counted) (signOf_not _).symm
  · rename_i nothing
    rw [dif_neg (show ¬0 < binary.opposite.significand from nothing)]
    exact congrArg UnpackedFloat.zero (signOf_not _).symm

/-- Negation turns the sign of a finite number over. -/
theorem neg_spec (finite : isFinite number = true) :
    isFinite (-number) = true ∧ ofFloat (-number) = (ofFloat number).opposite := by
  have packed := (isRegular_ofFloat finite).opposite.pack_spec
  rwa [← neg_unpacked, ← unpack_of_isFinite finite] at packed

theorem isNegative_neg (finite : isFinite number = true) :
    isNegative (-number) = !isNegative number := by
  rw [← negative_ofFloat, (neg_spec finite).2, opposite, negative_ofFloat]

@[simp]
theorem neg_neg_of_isFinite (finite : isFinite number = true) : - -number = number := by
  obtain ⟨finiteToo, parts⟩ := neg_spec finite
  obtain ⟨finiteAgain, same⟩ := neg_spec finiteToo
  rw [parts, opposite, opposite, Bool.not_not] at same
  apply eq_of_unpack_eq
  rw [unpack_of_isFinite finite, unpack_of_isFinite finiteAgain, same]

/-- The two infinities are all that is defined and not finite. -/
theorem eq_of_infinite (infinite : isFinite number = false) (defined : number.isNaN = false) :
    number = if isNegative number then -infinity else infinity := by
  have unpacks := unpack_of_infinite infinite defined
  apply eq_of_unpack_eq
  rw [unpacks]
  cases isNegative number with
  | false => rfl
  | true => rfl

end Binary

end Parlance
