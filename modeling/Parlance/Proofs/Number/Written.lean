import Mathlib
import Parlance.Proofs.Number.Reading
import Parlance.Proofs.Number.Shortest

/-!
# Written numbers

A finite unsigned number is written as a numeral, and reading the numeral gives the number back.
-/

namespace Parlance

open Numeral

variable {decimal : Decimal} {number : Float}

/-! ### Decimals -/

namespace Decimal

theorem isDigits_toDigits (number : Nat) : IsDigits (Nat.toDigits 10 number) :=
  ⟨Nat.toDigits_ne_nil, fun _ => Nat.isDigit_of_mem_toDigits (by decide) (by decide)⟩

theorem isDigit_of_mem_replicate {count : Nat} {char : Char}
    (member : char ∈ List.replicate count '0') : char.isDigit = true := by
  rw [List.eq_of_mem_replicate member]
  rfl

theorem value_pos_iff : 0 < decimal.value ↔ 0 < decimal.digits := by
  rw [value, mul_pos_iff_of_pos_right (by positivity), Nat.cast_pos]

/-- The text is a numeral, and reading it gives a decimal of this value. -/
def ReadsAs (text : Text) (value : ℚ) : Prop :=
  IsNumeral text ∧ ∃ decimal : Decimal, readUnsigned? text = some decimal.toFloat ∧
    decimal.value = value

/-- Zeros behind the digits take the place of the exponent. -/
theorem readsAs_trailing (digits zeros : Nat) :
    ReadsAs (Nat.toDigits 10 digits ++ List.replicate zeros '0') (digits * 10 ^ (zeros : ℤ)) := by
  have isDigits : IsDigits (Nat.toDigits 10 digits ++ List.replicate zeros '0') :=
    ⟨by simp, fun char member => (List.mem_append.1 member).elim
      ((isDigits_toDigits digits).2 char) isDigit_of_mem_replicate⟩
  refine ⟨.whole isDigits, _, isDigits.readUnsigned?_eq, ?_⟩
  have read : digitsValue (Nat.toDigits 10 digits ++ List.replicate zeros '0') =
      10 ^ zeros * digits := by
    rw [digitsValue, ← Nat.ofDigitChars_eq_foldl, Nat.ofDigitChars_append,
      Nat.ofDigitChars_ten_toDigits, Nat.ofDigitChars_replicate_zero]
  rw [value, read, zpow_natCast]
  push_cast
  ring

/-- A point between digits takes the place of the exponent. -/
theorem readsAs_point {whole fraction : Text} {digits : Nat} (isWhole : IsDigits whole)
    (isFraction : IsDigits fraction) (read : digitsValue (whole ++ fraction) = digits) :
    ReadsAs (whole ++ '.' :: fraction) (digits * 10 ^ (-fraction.length : ℤ)) := by
  refine ⟨.fraction isWhole isFraction, _, isWhole.readUnsigned?_append isFraction, ?_⟩
  rw [value, read]

/-- Zeros in front add nothing. -/
theorem digitsValue_zeros_append (zeros : Nat) (text : Text) :
    digitsValue (List.replicate zeros '0' ++ text) = digitsValue text := by
  rw [digitsValue, digitsValue, ← Nat.ofDigitChars_eq_foldl, ← Nat.ofDigitChars_eq_foldl,
    Nat.ofDigitChars_append, Nat.ofDigitChars_replicate_zero, Nat.mul_zero]

/-- What is written for a decimal is read as one of the same value. -/
theorem readsAs_positional (decimal : Decimal) : ReadsAs decimal.positional decimal.value := by
  obtain ⟨digits, exponent⟩ := decimal
  simp only [positional, value]
  split
  · rename_i upward
    have trailing := readsAs_trailing digits exponent.toNat
    rwa [Int.toNat_of_nonneg upward] at trailing
  · rename_i downward
    obtain ⟨places, rfl⟩ : ∃ places : Nat, exponent = -places := ⟨(-exponent).toNat, by omega⟩
    have some : 0 < places := by omega
    rw [neg_neg, Int.toNat_natCast]
    have read : digitsValue (Nat.toDigits 10 digits) = digits := Nat.ofDigitChars_ten_toDigits
    obtain ⟨nonempty, isDigit⟩ := isDigits_toDigits digits
    generalize Nat.toDigits 10 digits = text at *
    have length := List.length_pos_iff.2 nonempty
    split
    · rename_i inside
      have isWhole : IsDigits (text.take (text.length - places)) :=
        ⟨List.ne_nil_of_length_pos (by rw [List.length_take]; omega),
          fun char member => isDigit char (List.mem_of_mem_take member)⟩
      have isFraction : IsDigits (text.drop (text.length - places)) :=
        ⟨List.ne_nil_of_length_pos (by rw [List.length_drop]; omega),
          fun char member => isDigit char (List.mem_of_mem_drop member)⟩
      have point := readsAs_point isWhole isFraction (by rw [List.take_append_drop, read])
      rwa [List.length_drop, Nat.sub_sub_self inside.le] at point
    · rename_i outside
      have isWhole : IsDigits ['0'] := ⟨by simp, by simp⟩
      have isFraction : IsDigits (List.replicate (places - text.length) '0' ++ text) :=
        ⟨by simp [nonempty], fun char member =>
          (List.mem_append.1 member).elim isDigit_of_mem_replicate (isDigit char)⟩
      have point := readsAs_point isWhole isFraction
        ((digitsValue_zeros_append (places - text.length + 1) text).trans read)
      rwa [List.length_append, List.length_replicate, Nat.sub_add_cancel (not_lt.1 outside)] at point

end Decimal

namespace Numeral

/-- What is written for a finite unsigned number: its shortest decimal. -/
theorem write_of_finite (finite : Binary.isFinite number = true)
    (unsigned : Binary.IsUnsigned number) :
    (write number).toList =
      if (Binary.ofFloat number).significand = 0 then ['0']
      else (Decimal.shortest (Binary.ofFloat number)).positional := by
  rw [write, unsigned.1, finite]
  dsimp only [Bool.not_true]
  rw [if_neg (by decide), if_neg (by decide), (Binary.ofFloat_spec finite unsigned).2.1]
  split
  · rfl
  · exact String.toList_ofList

theorem isNumeral_write (finite : Binary.isFinite number = true)
    (unsigned : Binary.IsUnsigned number) : IsNumeral (write number).toList := by
  rw [write_of_finite finite unsigned]
  split
  · exact .whole ⟨by simp, by simp⟩
  · exact (Decimal.readsAs_positional _).1

theorem write_of_infinite (infinite : Binary.isFinite number = false)
    (unsigned : Binary.IsUnsigned number) : write number = "Infinity" := by
  rw [write, unsigned.1, infinite, unsigned.2]
  rfl

/-- What is written for a finite unsigned number is read as the number. -/
theorem readNumber?_write (finite : Binary.isFinite number = true)
    (unsigned : Binary.IsUnsigned number) :
    Arithmetic.readNumber? (write number).toList = some number := by
  obtain ⟨regular, _, restored⟩ := Binary.ofFloat_spec finite unsigned
  rw [(isNumeral_write finite unsigned).readNumber?_eq, write_of_finite finite unsigned]
  split
  · rename_i zero
    have nothing : number = 0 := by
      rw [← restored, Binary.bits, if_pos (by rw [zero]; exact Binary.unit_pos), zero, Binary.zero_eq]
    rw [nothing]
    rfl
  · rename_i counted
    have counted := Nat.pos_of_ne_zero counted
    obtain ⟨positive, attracts⟩ := Decimal.attracts_shortest counted regular.short
    obtain ⟨_, decimal, reads, same⟩ :=
      Decimal.readsAs_positional (Decimal.shortest (Binary.ofFloat number))
    rw [← Decimal.value_pos_iff, ← same, Decimal.value_pos_iff] at positive
    rw [← same] at attracts
    rw [reads, Decimal.toFloat_of_attracts regular counted positive attracts, restored]

end Numeral

end Parlance
