import Mathlib
import Parlance.Proofs.Number.Word
import Parlance.Value.Operation

/-!
# Bit operators

Bit operators work on the words of their operands, which are the whole parts of the operands as numbers
modulo two to the 32nd power, read with or without a sign. What they give is exact, for operands of any
type and size.
-/

namespace Parlance

open Binary

variable {heap : Heap} {value : Value}

namespace Value

/-- The whole part of the value as a number. -/
def wholePart (heap : Heap) (value : Value) : Int := Binary.wholePart (value.toNumber heap)

/-- The bits of the value. -/
def bits (heap : Heap) (value : Value) : BitVec 32 := BitVec.ofInt 32 (value.wholePart heap)

/-- The value is a number that is exactly this whole number. -/
def IsExactly (value : Value) (whole : Int) : Prop :=
  ∃ result, value = .number result ∧ Denotes result whole

theorem toWord_eq_toNat (heap : Heap) (value : Value) :
    value.toWord heap = (value.bits heap).toNat :=
  Word.ofFloat_eq_toNat _

theorem toSignedWord_eq_toInt (heap : Heap) (value : Value) :
    value.toSignedWord heap = (value.bits heap).toInt := by
  rw [toSignedWord, toWord_eq_toNat, Word.signed_toNat]

/-- The bits of a word with a sign are those that the word was read from. -/
theorem ofInt_toSignedWord (heap : Heap) (value : Value) :
    BitVec.ofInt 32 (value.toSignedWord heap) = value.bits heap := by
  rw [toSignedWord_eq_toInt, BitVec.ofInt_toInt]

theorem isExactly_toInt (bits : BitVec 32) :
    (number (Word.toSignedFloat bits.toNat)).IsExactly bits.toInt := by
  rw [Word.toSignedFloat, Word.signed_toNat]
  exact ⟨_, rfl, Word.denotes_toInt bits⟩

/-! ### Words -/

/-- The word without sign is the whole part modulo two to the 32nd power. -/
theorem toWord_eq (heap : Heap) (value : Value) :
    (value.toWord heap : Int) = value.wholePart heap % 2 ^ 32 :=
  Word.ofFloat_eq _

/-- The word with a sign is the same residue, from minus half the modulus on. -/
theorem toSignedWord_eq (heap : Heap) (value : Value) :
    value.toSignedWord heap = (value.wholePart heap).bmod (2 ^ 32) := by
  rw [toSignedWord_eq_toInt, bits, BitVec.toInt_ofInt]

/-! ### Operators -/

section

variable (heap : Heap) (left right : Value)

/-- An operator that works on each bit of its operands. -/
theorem isExactly_bitwise {combine : Nat → Nat → Nat} {onBits : BitVec 32 → BitVec 32 → BitVec 32}
    (same : ∀ first second : BitVec 32,
      combine first.toNat second.toNat = (onBits first second).toNat) :
    (number (Word.toSignedFloat (combine (left.toWord heap) (right.toWord heap)))).IsExactly
      (onBits (BitVec.ofInt 32 (left.toSignedWord heap))
        (BitVec.ofInt 32 (right.toSignedWord heap))).toInt := by
  rw [toWord_eq_toNat, toWord_eq_toNat, same, ofInt_toSignedWord, ofInt_toSignedWord]
  exact isExactly_toInt _

theorem isExactly_complement :
    (UnaryOperator.complement.apply heap left).IsExactly
      (~~~BitVec.ofInt 32 (left.toSignedWord heap)).toInt := by
  rw [ofInt_toSignedWord, UnaryOperator.apply, toWord_eq_toNat, Word.complement_toNat]
  exact isExactly_toInt _

theorem isExactly_shiftLeft :
    (BinaryOperator.shiftLeft.apply heap left right).IsExactly
      ((left.toSignedWord heap * 2 ^ (right.toWord heap % 32)).bmod (2 ^ 32)) := by
  rw [toSignedWord_eq_toInt, ← Word.toInt_shiftLeft_eq]
  change (number (Word.toSignedFloat
    (Word.shiftLeft (left.toWord heap) (right.toWord heap)))).IsExactly _
  rw [toWord_eq_toNat heap left, Word.shiftLeft_toNat]
  exact isExactly_toInt _

theorem isExactly_shiftRight :
    (BinaryOperator.shiftRight.apply heap left right).IsExactly
      ⌊(left.toSignedWord heap : ℚ) / 2 ^ (right.toWord heap % 32)⌋ := by
  rw [toSignedWord_eq_toInt, ← Word.toInt_sshiftRight_eq]
  change (number (Float.ofInt
    (Word.shiftRight (left.toWord heap) (right.toWord heap)))).IsExactly _
  rw [toWord_eq_toNat heap left, Word.shiftRight_toNat]
  exact ⟨_, rfl, Word.denotes_toInt _⟩

theorem isExactly_shiftRightUnsigned :
    (BinaryOperator.shiftRightUnsigned.apply heap left right).IsExactly
      ⌊(left.toWord heap : ℚ) / 2 ^ (right.toWord heap % 32)⌋ := by
  rw [toWord_eq_toNat heap left, ← Word.toNat_ushiftRight_eq]
  change (number (Word.toFloat
    (Word.shiftRightUnsigned (left.toWord heap) (right.toWord heap)))).IsExactly _
  rw [toWord_eq_toNat heap left, Word.shiftRightUnsigned_toNat]
  exact ⟨_, rfl, Word.denotes_toNat _⟩

end

/-- The words of a value are the residues of its whole part, and the bit operators are exact on them:
and, or, exclusive or and complement work on each bit, and moving the bits multiplies and divides by a
power of two, rounding down. -/
theorem bit_operators_exact (heap : Heap) (left right : Value) :
    (left.toWord heap : Int) = left.wholePart heap % 2 ^ 32 ∧
    left.toSignedWord heap = (left.wholePart heap).bmod (2 ^ 32) ∧
    (BinaryOperator.bitAnd.apply heap left right).IsExactly
      (BitVec.ofInt 32 (left.toSignedWord heap) &&&
        BitVec.ofInt 32 (right.toSignedWord heap)).toInt ∧
    (BinaryOperator.bitOr.apply heap left right).IsExactly
      (BitVec.ofInt 32 (left.toSignedWord heap) |||
        BitVec.ofInt 32 (right.toSignedWord heap)).toInt ∧
    (BinaryOperator.bitXor.apply heap left right).IsExactly
      (BitVec.ofInt 32 (left.toSignedWord heap) ^^^
        BitVec.ofInt 32 (right.toSignedWord heap)).toInt ∧
    (UnaryOperator.complement.apply heap left).IsExactly
      (~~~BitVec.ofInt 32 (left.toSignedWord heap)).toInt ∧
    (BinaryOperator.shiftLeft.apply heap left right).IsExactly
      ((left.toSignedWord heap * 2 ^ (right.toWord heap % 32)).bmod (2 ^ 32)) ∧
    (BinaryOperator.shiftRight.apply heap left right).IsExactly
      ⌊(left.toSignedWord heap : ℚ) / 2 ^ (right.toWord heap % 32)⌋ ∧
    (BinaryOperator.shiftRightUnsigned.apply heap left right).IsExactly
      ⌊(left.toWord heap : ℚ) / 2 ^ (right.toWord heap % 32)⌋ :=
  ⟨toWord_eq heap left, toSignedWord_eq heap left,
    isExactly_bitwise heap left right fun _ _ => (BitVec.toNat_and _ _).symm,
    isExactly_bitwise heap left right fun _ _ => (BitVec.toNat_or _ _).symm,
    isExactly_bitwise heap left right fun _ _ => (BitVec.toNat_xor _ _).symm,
    isExactly_complement heap left, isExactly_shiftLeft heap left right,
    isExactly_shiftRight heap left right, isExactly_shiftRightUnsigned heap left right⟩

end Value

end Parlance
