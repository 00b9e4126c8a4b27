import Parlance.Number.Remainder

/-!
# Numbers as words

Bit operators see a number as a word of 32 bits: its whole part modulo two to the 32nd power.
Numbers that are not finite are seen as zero. The division is one of numbers, whose remainder has the
sign of the dividend, and only its result is made a word.
-/

namespace Parlance.Word

/-- The number of words. -/
def modulus : Nat := Nat.pow 2 32

/-- What the modulus leaves of the whole part of a number, brought up by the modulus if it is
negative. -/
def residue (number : Float) : Float :=
  let rest := remainder (Binary.whole number) (Float.ofNat modulus)
  if rest < 0 then rest + Float.ofNat modulus else rest

/-- The word of a number, without sign. -/
def ofFloat (number : Float) : Nat :=
  if Binary.isFinite number then (residue number).toUInt32.toNat else 0

/-- The word read with a sign: from half the modulus on it stands for a negative number. -/
def signed (word : Nat) : Int :=
  if word < modulus / 2 then word else (word : Int) - modulus

/-- The number of a word without sign. -/
def toFloat (word : Nat) : Float := Float.ofNat word

/-- The number of a word read with a sign. -/
def toSignedFloat (word : Nat) : Float := Float.ofInt (signed word)

/-- The word with every bit turned over. -/
def complement (word : Nat) : Nat := modulus - 1 - word

/-- The word moved left by the given places modulo 32. -/
def shiftLeft (word places : Nat) : Nat := word * Nat.pow 2 (places % 32) % modulus

/-- The word read with a sign, moved right by the given places modulo 32. -/
def shiftRight (word places : Nat) : Int := signed word / (Nat.pow 2 (places % 32) : Nat)

/-- The word without sign, moved right by the given places modulo 32. -/
def shiftRightUnsigned (word places : Nat) : Nat := word / Nat.pow 2 (places % 32)

end Parlance.Word
