import Parlance.Evaluation.Property

/-!
# Indices

A name is an index if it is the decimal numeral of a number, without zeros in front, and the number
is not beyond the greatest index. So every index has one name.
-/

namespace Parlance

open Numeral

variable {name : Text} {index : Nat}

theorem digitChar_of_isDigit {digit : Char} (isDigit : digit.isDigit = true) :
    digit.toNat - '0'.toNat < 10 ∧ (digit.toNat - '0'.toNat).digitChar = digit := by
  have bounds : 48 ≤ digit.toNat ∧ digit.toNat ≤ 57 := by
    simp only [Char.isDigit, Bool.and_eq_true, decide_eq_true_eq, ge_iff_le,
      UInt32.le_iff_toNat_le] at isDigit
    exact isDigit
  have zero : '0'.toNat = 48 := rfl
  refine ⟨by omega, Char.toNat_inj.1 ?_⟩
  rw [Nat.toNat_digitChar_of_lt_ten (by omega)]
  omega

/-- Digits behind a number that is not zero are behind its numeral. -/
theorem toDigits_foldl {digits : Text} (areDigits : ∀ digit ∈ digits, digit.isDigit = true)
    {start : Nat} (counted : 0 < start) :
    Nat.toDigits 10
        (digits.foldl (fun total digit => 10 * total + (digit.toNat - '0'.toNat)) start) =
      Nat.toDigits 10 start ++ digits := by
  induction digits generalizing start with
  | nil => exact (List.append_nil _).symm
  | cons digit digits ih =>
      obtain ⟨small, restored⟩ := digitChar_of_isDigit (areDigits digit (by simp))
      have next : Nat.toDigits 10 (10 * start + (digit.toNat - '0'.toNat)) =
          Nat.toDigits 10 start ++ [digit] := by
        rw [← Nat.toDigits_append_toDigits (by decide) counted small,
          Nat.toDigits_of_lt_base small, restored]
      rw [List.foldl_cons, ih (fun other member => areDigits other (by simp [member])) (by omega),
        next, List.append_assoc, List.singleton_append]

/-- Digits that do not begin with a zero are the numeral of the number that they write. -/
theorem toDigits_digitsValue {digit : Char} {digits : Text}
    (areDigits : ∀ other ∈ digit :: digits, other.isDigit = true) (notZero : digit ≠ '0') :
    Nat.toDigits 10 (digitsValue (digit :: digits)) = digit :: digits := by
  obtain ⟨small, restored⟩ := digitChar_of_isDigit (areDigits digit (by simp))
  have counted : 0 < digit.toNat - '0'.toNat := by
    refine Nat.pos_of_ne_zero fun none => notZero ?_
    rw [← restored, none]
    rfl
  rw [digitsValue, List.foldl_cons, Nat.mul_zero, Nat.zero_add,
    toDigits_foldl (fun other member => areDigits other (by simp [member])) counted,
    Nat.toDigits_of_lt_base small, restored, List.singleton_append]

/-- A numeral begins with a zero only if it is that of zero. -/
theorem eq_zero_of_toDigits {number : Nat} {rest : Text}
    (zeros : Nat.toDigits 10 number = '0' :: rest) : number = 0 := by
  induction number using Nat.strongRecOn generalizing rest with
  | ind number ih =>
      by_cases small : number < 10
      · rw [Nat.toDigits_of_lt_base small] at zeros
        have same : number.digitChar = Nat.digitChar 0 := (List.cons.inj zeros).1
        have sameNat := congrArg Char.toNat same
        rw [Nat.toNat_digitChar_of_lt_ten small,
          Nat.toNat_digitChar_of_lt_ten (by decide)] at sameNat
        omega
      · rw [Nat.toDigits_of_base_le (by decide) (by omega)] at zeros
        cases former : Nat.toDigits 10 (number / 10) with
        | nil => exact absurd former Nat.toDigits_ne_nil
        | cons digit digits =>
            rw [former] at zeros
            obtain ⟨rfl, _⟩ := List.cons.inj zeros
            have none := ih (number / 10) (by omega) former
            omega

/-- A total that never shrinks stays within a bound all the time if it does in the end. -/
theorem foldlM_within {step : Nat → Char → Nat} (grows : ∀ total digit, total ≤ step total digit)
    {bound start : Nat} (within : start < bound) (digits : Text) :
    digits.foldlM
        (fun total digit => if step total digit < bound then some (step total digit) else none)
        start =
      if digits.foldl step start < bound then some (digits.foldl step start) else none := by
  have least : ∀ (digits : Text) (start : Nat), start ≤ digits.foldl step start := by
    intro digits
    induction digits with
    | nil => exact fun start => Nat.le_refl start
    | cons digit digits ih => exact fun start => Nat.le_trans (grows start digit) (ih _)
  induction digits generalizing start with
  | nil => exact (if_pos within).symm
  | cons digit digits ih =>
      rw [List.foldlM_cons, List.foldl_cons]
      by_cases inside : step start digit < bound
      · rw [if_pos inside]
        exact ih inside
      · have beyond := Nat.le_trans (Nat.not_lt.1 inside) (least digits _)
        rw [if_neg inside, if_neg (Nat.not_lt.2 beyond)]
        rfl

/-- Digits are read as the number that they write, if this is within a word. -/
theorem readWord?_eq (digits : Text) :
    readWord? digits =
      if digitsValue digits < Nat.pow 2 64 then some (digitsValue digits) else none :=
  foldlM_within (fun _ _ => by omega) (by decide) digits

theorem readWord?_filter_eq_some_iff {digits : Text} :
    ((readWord? digits).filter fun index => decide (index ≤ greatestIndex)) = some index ↔
      digitsValue digits = index ∧ index ≤ greatestIndex := by
  have small : greatestIndex < Nat.pow 2 64 := by decide
  rw [Option.filter_eq_some_iff, readWord?_eq, Option.ite_none_right_eq_some, Option.some_inj,
    decide_eq_true_eq]
  constructor
  · rintro ⟨⟨-, same⟩, bounded⟩
    exact ⟨same, bounded⟩
  · rintro ⟨rfl, bounded⟩
    exact ⟨⟨Nat.lt_of_le_of_lt bounded small, rfl⟩, bounded⟩

/-- A text is an index exactly if it is the numeral of that index. -/
theorem index?_eq_some_iff :
    index? name = some index ↔ name = Nat.toDigits 10 index ∧ index ≤ greatestIndex := by
  constructor
  · intro numbered
    unfold index? at numbered
    split at numbered
    · cases numbered
    · cases numbered
    · rename_i notEmpty notLeading
      split at numbered
      · rename_i areDigits
        obtain ⟨rfl, bounded⟩ := readWord?_filter_eq_some_iff.1 numbered
        refine ⟨?_, bounded⟩
        cases name with
        | nil => exact absurd rfl notEmpty
        | cons digit digits =>
            by_cases zero : digit = '0'
            · subst zero
              cases digits with
              | nil => rfl
              | cons other others => exact absurd rfl (notLeading other others)
            · exact (toDigits_digitsValue (List.all_eq_true.1 areDigits) zero).symm
      · cases numbered
  · rintro ⟨rfl, bounded⟩
    unfold index?
    split
    · rename_i empty
      exact absurd empty Nat.toDigits_ne_nil
    · rename_i leading
      rw [eq_zero_of_toDigits leading, Nat.toDigits_zero] at leading
      cases leading
    · have areDigits : (Nat.toDigits 10 index).all Char.isDigit = true :=
        List.all_eq_true.2 fun _ => Nat.isDigit_of_mem_toDigits (by decide) (by decide)
      have restored : digitsValue (Nat.toDigits 10 index) = index := by
        rw [digitsValue, ← Nat.ofDigitChars_eq_foldl, Nat.ofDigitChars_ten_toDigits]
      rw [if_pos areDigits, readWord?_filter_eq_some_iff]
      exact ⟨restored, bounded⟩

/-- Different numbers are written differently. -/
theorem eq_of_repr_eq {number other : Nat} (same : Nat.repr number = Nat.repr other) :
    number = other := by
  rw [Nat.repr_eq_ofList_toDigits, Nat.repr_eq_ofList_toDigits, String.ofList_inj] at same
  have restored := congrArg (Nat.ofDigitChars 10 · 0) same
  simpa only [Nat.ofDigitChars_ten_toDigits] using restored

/-- A name is an index exactly if it writes that index. -/
theorem index?_toList_eq_some_iff {name : String} :
    index? name.toList = some index ↔ name = Nat.repr index ∧ index ≤ greatestIndex := by
  rw [index?_eq_some_iff, ← String.ofList_inj, String.ofList_toList, ← Nat.repr_eq_ofList_toDigits]

end Parlance
