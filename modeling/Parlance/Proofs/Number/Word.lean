import Mathlib
import Parlance.Number.Word
import Parlance.Proofs.Number.Remainder

/-!
# Words of numbers

The word of a number is its whole part modulo the number of words, however great the number is: every
step of the computation is exact. What is done with words is what is done with their bits, and the
number of a word has the value of the word.
-/

namespace Parlance

open Float.Model Float.Model.UnpackedFloat

namespace Binary

variable {number : Float}

/-- The whole part of a number: its value rounded towards zero, and nothing if it is not finite. -/
def wholePart (number : Float) : Int :=
  let value := (ofFloat number).value
  if isFinite number then if 0 ≤ value then ⌊value⌋ else ⌈value⌉ else 0

theorem wholePart_of_isFinite (finite : isFinite number = true) :
    wholePart number = (ofFloat number).truncated := by
  rw [wholePart, if_pos finite, truncated_spec]

theorem wholePart_of_infinite (infinite : isFinite number = false) : wholePart number = 0 := by
  rw [wholePart, infinite]
  rfl

/-- A conversion to a word of 32 bits keeps a whole number that is such a word. -/
theorem Denotes.toNat_toUInt32 {word : Nat} (denotes : Denotes number word)
    (short : word < 2 ^ 32) : number.toUInt32.toNat = word := by
  have size : UInt32.size = 2 ^ 32 := rfl
  have cut : toInt 0 (UInt32.size - 1) number.toModel.unpack = word := by
    rw [toInt_of_isFinite denotes.finite]
    exact truncated_of_value_eq (by rw [denotes.value_eq, Int.cast_natCast])
  change (UInt32.ofNatClamp (toInt 0 (UInt32.size - 1) number.toModel.unpack).toNat).toNat = word
  rw [cut, Int.toNat_natCast, UInt32.ofNatClamp, dif_pos (by omega), UInt32.toNat_ofNatLT]

/-- Whole numbers below twice the unit are exact, with either sign. -/
theorem denotes_ofInt {whole : Int} (short : whole.natAbs < 2 * unit) :
    Denotes (Float.ofInt whole) whole := by
  cases whole with
  | ofNat count =>
      rw [Int.ofNat_eq_natCast, Int.cast_natCast]
      exact denotes_ofNat short
  | negSucc count =>
      rw [Int.cast_negSucc]
      exact (denotes_ofNat short).neg

end Binary

namespace Word

open Binary

variable {number : Float}

theorem modulus_eq : modulus = 2 ^ 32 := rfl

theorem denotes_modulus : Denotes (Float.ofNat modulus) modulus := denotes_ofNat (by decide)

/-- A remainder that is brought up by the modulus is that of a division rounded down. -/
theorem tmod_eq (whole : Int) :
    (if whole.tmod modulus < 0 then whole.tmod modulus + modulus else whole.tmod modulus) =
      whole % modulus := by
  have least := Int.emod_nonneg whole (b := modulus) (by decide)
  have most := Int.emod_lt_of_pos whole (b := modulus) (by decide)
  have positive : ((modulus : Int).natAbs : Int) = modulus := rfl
  rw [Int.tmod_eq_emod]
  split_ifs <;> omega

/-- What the modulus leaves is exact. -/
theorem denotes_residue (finite : isFinite number = true) :
    Denotes (residue number) ((wholePart number % modulus : Int) : ℚ) := by
  have rest := denotes_remainder (denotes_whole finite) denotes_modulus (by decide) (by decide)
  rw [← wholePart_of_isFinite finite] at rest
  have same := tmod_eq (wholePart number)
  rw [residue]
  simp only [rest.lt_zero_iff, Int.cast_lt_zero]
  split
  · rename_i below
    rw [if_pos below] at same
    have sum : IsRepresentable ((wholePart number % modulus : Int) : ℚ) := by
      have least := Int.emod_nonneg (wholePart number) (b := modulus) (by decide)
      have most := Int.emod_lt_of_pos (wholePart number) (b := modulus) (by decide)
      have size : 2 * unit = 2 ^ 53 := rfl
      have words : (modulus : Int) = 2 ^ 32 := rfl
      exact isRepresentable_intCast (by omega)
    rw [← same, Int.cast_add, Int.cast_natCast] at sum ⊢
    exact rest.add denotes_modulus sum
  · rename_i above
    rw [if_neg above] at same
    rwa [← same]

/-- The word of a number is its whole part modulo the number of words. -/
theorem ofFloat_eq (number : Float) : (ofFloat number : Int) = wholePart number % modulus := by
  cases finite : isFinite number with
  | false =>
      rw [ofFloat, finite, wholePart_of_infinite finite]
      rfl
  | true =>
      have least := Int.emod_nonneg (wholePart number) (b := modulus) (by decide)
      have most := Int.emod_lt_of_pos (wholePart number) (b := modulus) (by decide)
      have residue := denotes_residue finite
      obtain ⟨word, same⟩ := Int.eq_ofNat_of_zero_le least
      rw [same, Int.cast_natCast] at residue
      rw [same] at most ⊢
      rw [ofFloat, if_pos finite, residue.toNat_toUInt32 (by exact_mod_cast most)]

/-! ### Bits -/

/-- The bits of the word of a number. -/
theorem ofFloat_eq_toNat (number : Float) :
    ofFloat number = (BitVec.ofInt 32 (wholePart number)).toNat := by
  have same := ofFloat_eq number
  rw [BitVec.toNat_ofInt]
  exact (Int.toNat_natCast _).symm.trans (congrArg Int.toNat same)

section

variable (bits : BitVec 32) (places : Nat)

theorem signed_toNat : signed bits.toNat = bits.toInt := by
  have half : modulus / 2 = 2 ^ 31 := rfl
  rw [signed, BitVec.toInt_eq_toNat_cond, half, modulus_eq]
  split_ifs <;> omega

theorem complement_toNat : complement bits.toNat = (~~~bits).toNat := BitVec.toNat_not.symm

theorem shiftLeft_toNat : shiftLeft bits.toNat places = (bits <<< (places % 32)).toNat := by
  rw [BitVec.toNat_shiftLeft, Nat.shiftLeft_eq]
  rfl

theorem shiftRight_toNat :
    shiftRight bits.toNat places = (bits.sshiftRight (places % 32)).toInt := by
  rw [BitVec.toInt_sshiftRight, Int.shiftRight_eq_div_pow, shiftRight, signed_toNat]
  rfl

theorem shiftRightUnsigned_toNat :
    shiftRightUnsigned bits.toNat places = (bits >>> (places % 32)).toNat := by
  rw [BitVec.toNat_ushiftRight, Nat.shiftRight_eq_div_pow]
  rfl

/-- Moving bits left multiplies, and the product is brought into the range of words with a sign. -/
theorem toInt_shiftLeft_eq : (bits <<< places).toInt = (bits.toInt * 2 ^ places).bmod (2 ^ 32) := by
  rw [BitVec.toInt_shiftLeft, BitVec.toInt_eq_toNat_bmod, Int.bmod_mul_bmod, Nat.shiftLeft_eq]
  push_cast
  rfl

/-- Moving bits right with the sign divides and rounds down. -/
theorem toInt_sshiftRight_eq :
    (bits.sshiftRight places).toInt = ⌊(bits.toInt : ℚ) / 2 ^ places⌋ := by
  have floor := Rat.floor_intCast_div_natCast bits.toInt (2 ^ places)
  rw [Nat.cast_pow, Nat.cast_ofNat] at floor
  rw [floor, BitVec.toInt_sshiftRight, Int.shiftRight_eq_div_pow]

/-- Moving bits right without the sign divides and rounds down. -/
theorem toNat_ushiftRight_eq :
    ((bits >>> places).toNat : Int) = ⌊(bits.toNat : ℚ) / 2 ^ places⌋ := by
  have floor := Rat.floor_intCast_div_natCast bits.toNat (2 ^ places)
  rw [Nat.cast_pow, Nat.cast_ofNat, Int.cast_natCast] at floor
  rw [floor, BitVec.toNat_ushiftRight, Nat.shiftRight_eq_div_pow]
  push_cast
  rfl

/-- The number of a word with a sign has its value. -/
theorem denotes_toInt : Denotes (Float.ofInt bits.toInt) bits.toInt := by
  have least := bits.le_toInt
  have most := bits.toInt_lt
  have size : 2 * unit = 2 ^ 53 := rfl
  exact denotes_ofInt (by omega)

/-- The number of a word without sign has its value. -/
theorem denotes_toNat : Denotes (toFloat bits.toNat) (bits.toNat : Int) := by
  have most := bits.isLt
  have size : 2 * unit = 2 ^ 53 := rfl
  rw [Int.cast_natCast]
  exact denotes_ofNat (by omega)

end

end Word

end Parlance
