import Mathlib
import Parlance.Arithmetic.Literal
import Parlance.Proofs.Number.Unsigned

/-!
# Reading numerals

Without a sign in front, only unsigned numbers are read. Digits, with a point between them or
without, are read as the decimal that they write.
-/

namespace Parlance

open Binary

variable {text digits whole : Text} {number : Float} {char : Char} {value : Nat}

/-! ### Signs -/

theorem Decimal.isUnsigned_toFloat (decimal : Decimal) : IsUnsigned decimal.toFloat := by
  unfold Decimal.toFloat
  split
  · exact isUnsigned_zero
  · dsimp only
    split
    · exact isUnsigned_infinity
    · split
      · exact isUnsigned_zero
      · exact isUnsigned_nearest _ (by simp only [Nat.pow_eq]; positivity)

namespace Numeral

/-- The fraction at the start of a text, if it has a point, and what follows it. -/
def spanFraction (text : Text) : Text × Text :=
  match text with
  | '.' :: rest => spanDigits rest
  | rest => ([], rest)

/-- What is read is a decimal, with an exponent behind its digits. -/
theorem exists_of_readUnsigned? (reads : readUnsigned? text = some number) :
    ∃ decimal : Decimal, decimal.toFloat = number ∧
      ∃ exponent, readExponent? (spanFraction (spanDigits text).2).2 = some exponent := by
  have conclude : ∀ (whole : Text) (parts : Text × Text),
      (if whole.isEmpty && parts.1.isEmpty then none
      else (readExponent? parts.2).map fun exponent =>
        Decimal.toFloat ⟨digitsValue (whole ++ parts.1), exponent - parts.1.length⟩) =
        some number →
      ∃ decimal : Decimal, decimal.toFloat = number ∧
        ∃ exponent, readExponent? parts.2 = some exponent := by
    intro whole parts reads
    split at reads
    · cases reads
    · obtain ⟨exponent, found, rfl⟩ := Option.map_eq_some_iff.1 reads
      exact ⟨_, rfl, exponent, found⟩
  exact conclude (spanDigits text).1 (spanFraction (spanDigits text).2) reads

theorem isUnsigned_of_readUnsigned? (reads : readUnsigned? text = some number) :
    IsUnsigned number := by
  obtain ⟨decimal, rfl, _⟩ := exists_of_readUnsigned? reads
  exact Decimal.isUnsigned_toFloat decimal

theorem hexDigit?_lt (digit : hexDigit? char = some value) : value < 16 := by
  simp only [hexDigit?, Char.le_def, UInt32.le_iff_toNat_le] at digit
  split at digit
  · rename_i range
    cases digit
    have upper : char.toNat ≤ 57 := range.2
    show char.toNat - 48 < 16
    omega
  · split at digit
    · rename_i range
      cases digit
      have upper : char.toNat ≤ 102 := range.2
      show char.toNat - 97 + 10 < 16
      omega
    · split at digit
      · rename_i range
        cases digit
        have upper : char.toNat ≤ 70 := range.2
        show char.toNat - 65 + 10 < 16
        omega
      · cases digit

/-- Each step of reading hexadecimal digits keeps the number unsigned. -/
theorem isUnsigned_of_readHex? (reads : readHex? digits = some number) : IsUnsigned number := by
  have steps : ∀ (digits : Text) (total : Float), IsUnsigned total →
      digits.foldlM (fun (total : Float) digit =>
        (hexDigit? digit).map fun value => total * 16 + Float.ofNat value) total = some number →
      IsUnsigned number := by
    intro digits
    induction digits with
    | nil =>
        rintro total unsigned ⟨⟩
        exact unsigned
    | cons digit digits induction =>
        intro total unsigned reads
        rw [List.foldlM_cons] at reads
        obtain ⟨next, step, reads⟩ := Option.bind_eq_some_iff.1 reads
        obtain ⟨value, found, rfl⟩ := Option.map_eq_some_iff.1 step
        exact induction _ (unsigned.mul_add (hexDigit?_lt found)) reads
  rw [readHex?] at reads
  split at reads
  · cases reads
  · exact steps digits 0 isUnsigned_zero reads

theorem splitSign_of_head (unsigned : ∀ char ∈ text.head?, char ≠ '+' ∧ char ≠ '-') :
    splitSign text = (false, text) := by
  unfold splitSign
  split
  · exact absurd rfl (unsigned _ rfl).2
  · exact absurd rfl (unsigned _ rfl).1
  · rfl

theorem eq_of_toLower_n (lower : char.toLower = 'n') : char = 'n' ∨ char = 'N' := by
  by_cases upper : char.isUpper
  · have raised := congrArg Char.toUpper lower
    rw [Char.toUpper_toLower_eq_toUpper,
      Char.toUpper_eq_of_not_isLower (Char.not_isLower_of_isUpper upper)] at raised
    exact .inr raised
  · rw [Char.toLower_eq_of_not_isUpper upper] at lower
    exact .inl lower

/-- What is read without a sign in front, and is not the name of the undefined number, is unsigned. -/
theorem isUnsigned_of_readNumber? (reads : Arithmetic.readNumber? text = some number)
    (head : ∀ char ∈ text.head?, char ∉ ['+', '-', 'n', 'N']) : Binary.IsUnsigned number := by
  have noSign : splitSign text = (false, text) :=
    splitSign_of_head fun char member => by
      have other := head char member
      simp only [List.mem_cons, not_or] at other
      exact ⟨other.1, other.2.1⟩
  rw [Arithmetic.readNumber?] at reads
  split at reads
  · exact isUnsigned_of_readHex? reads
  · rw [readNamedOrDecimal?, noSign] at reads
    dsimp only at reads
    split at reads
    · cases reads
      exact isUnsigned_infinity
    · cases reads
      exact isUnsigned_infinity
    · rename_i _ named
      have letters := congrArg String.toList named
      rw [String.toList_ofList] at letters
      obtain ⟨first, _, rfl, lower, _⟩ := List.map_eq_cons_iff.1 letters
      have other := head first rfl
      rcases eq_of_toLower_n lower with rfl | rfl
      · exact absurd other (by decide)
      · exact absurd other (by decide)
    · rw [readDecimal?, noSign] at reads
      obtain ⟨magnitude, found, rfl⟩ := Option.map_eq_some_iff.1 reads
      exact isUnsigned_of_readUnsigned? found

/-! ### Digits -/

/-- Plain digits, at least one. -/
def IsDigits (text : Text) : Prop := text ≠ [] ∧ ∀ char ∈ text, char.isDigit = true

/-- Digits, or digits with a point and digits behind it. -/
inductive IsNumeral : Text → Prop where
  | whole {digits : Text} (isDigits : IsDigits digits) : IsNumeral digits
  | fraction {whole digits : Text} (isWhole : IsDigits whole) (isFraction : IsDigits digits) :
      IsNumeral (whole ++ '.' :: digits)

/-- A numeral starts with a digit. -/
theorem IsNumeral.exists_digit (numeral : IsNumeral text) :
    ∃ first others, text = first :: others ∧ first.isDigit = true := by
  cases numeral with
  | whole isDigits =>
      obtain ⟨first, others, rfl⟩ := List.exists_cons_of_ne_nil isDigits.1
      exact ⟨first, others, rfl, isDigits.2 first (by simp)⟩
  | fraction isWhole _ =>
      obtain ⟨first, others, rfl⟩ := List.exists_cons_of_ne_nil isWhole.1
      exact ⟨first, _, rfl, isWhole.2 first (by simp)⟩

theorem IsNumeral.isDigit_or_point (numeral : IsNumeral text) (member : char ∈ text) :
    char.isDigit = true ∨ char = '.' := by
  cases numeral with
  | whole isDigits => exact .inl (isDigits.2 char member)
  | fraction isWhole isFraction =>
      simp only [List.mem_append, List.mem_cons] at member
      rcases member with inWhole | isPoint | inFraction
      · exact .inl (isWhole.2 char inWhole)
      · exact .inr isPoint
      · exact .inl (isFraction.2 char inFraction)

theorem IsDigits.not_mem_point (digits : IsDigits text) : '.' ∉ text :=
  fun member => absurd (digits.2 '.' member) (by decide)

/-- Digits are read up to the first other character. -/
theorem spanDigits_append (isDigits : ∀ char ∈ digits, char.isDigit = true)
    (ends : ∀ char ∈ text.head?, char.isDigit = false) :
    spanDigits (digits ++ text) = (digits, text) := by
  have stops : text.takeWhile Char.isDigit = [] ∧ text.dropWhile Char.isDigit = text := by
    cases text with
    | nil => exact ⟨rfl, rfl⟩
    | cons char text =>
        have other := ends char rfl
        exact ⟨List.takeWhile_cons_of_neg (by simp [other]),
          List.dropWhile_cons_of_neg (by simp [other])⟩
  rw [spanDigits, List.takeWhile_append_of_pos isDigits, List.dropWhile_append_of_pos isDigits,
    stops.1, stops.2, List.append_nil]

theorem spanDigits_of_isDigit (isDigits : ∀ char ∈ digits, char.isDigit = true) :
    spanDigits digits = (digits, []) := by
  simpa using @spanDigits_append [] digits isDigits (by simp)

theorem IsDigits.isEmpty_eq_false (isDigits : IsDigits digits) : digits.isEmpty = false := by
  simpa using isDigits.1

/-- Plain digits are read as a whole decimal. -/
theorem IsDigits.readUnsigned?_eq (isDigits : IsDigits digits) :
    readUnsigned? digits = some (Decimal.toFloat ⟨digitsValue digits, 0⟩) := by
  simp [readUnsigned?, spanDigits_of_isDigit isDigits.2, isDigits.isEmpty_eq_false, readExponent?]

/-- Digits with a point between them are read as a decimal with as many places as digits behind the
point. -/
theorem IsDigits.readUnsigned?_append (isWhole : IsDigits whole) (isFraction : IsDigits digits) :
    readUnsigned? (whole ++ '.' :: digits) =
      some (Decimal.toFloat ⟨digitsValue (whole ++ digits), -digits.length⟩) := by
  have spanWhole := spanDigits_append isWhole.2 (by simp : ∀ char ∈ ('.' :: digits).head?, _)
  simp [readUnsigned?, spanWhole, spanDigits_of_isDigit isFraction.2, isWhole.isEmpty_eq_false,
    readExponent?]

theorem not_isUpper_of_isDigit (digit : char.isDigit = true) : char.isUpper = false := by
  simp only [Char.isDigit, Char.isUpper, Bool.and_eq_true, decide_eq_true_eq, ge_iff_le,
    decide_eq_false_iff_not, UInt32.le_iff_toNat_le] at digit ⊢
  have upper : char.val.toNat ≤ 57 := digit.2
  rintro ⟨lower, _⟩
  have lower : 65 ≤ char.val.toNat := lower
  omega

/-- What starts with a digit or a point is no name, whatever the case of its letters. -/
theorem toLower_ne {first letter : Char} {others letters : List Char}
    (starts : first.isDigit = true ∨ first = '.') (isLetter : letter.isDigit = false ∧ letter ≠ '.') :
    String.ofList ((first :: others).map Char.toLower) ≠ String.ofList (letter :: letters) := by
  intro same
  have notUpper : first.isUpper = false := by
    rcases starts with digit | rfl
    · exact not_isUpper_of_isDigit digit
    · rfl
  have same := congrArg String.toList same
  rw [String.toList_ofList, String.toList_ofList, List.map_cons,
    Char.toLower_eq_of_not_isUpper (by simp [notUpper])] at same
  cases same
  rcases starts with digit | rfl
  · exact absurd digit (by simp [isLetter.1])
  · exact absurd rfl isLetter.2

theorem hexBody?_eq_none {first : Char} {others : Text}
    (unmarked : ∀ char ∈ others, char ≠ 'x' ∧ char ≠ 'X') : hexBody? (first :: others) = none := by
  unfold hexBody?
  split
  · rename_i same
    cases same
    exact absurd rfl (unmarked 'x' (by simp)).1
  · rename_i same
    cases same
    exact absurd rfl (unmarked 'X' (by simp)).2
  · rfl

/-- There is no sign in front of a digit or a point. -/
theorem splitSign_cons {first : Char} {others : Text}
    (starts : first.isDigit = true ∨ first = '.') :
    splitSign (first :: others) = (false, first :: others) := by
  refine splitSign_of_head ?_
  rintro _ ⟨⟩
  constructor
  · rintro rfl
    exact absurd starts (by decide)
  · rintro rfl
    exact absurd starts (by decide)

theorem readDecimal?_eq_readUnsigned? {first : Char} {others : Text}
    (starts : first.isDigit = true ∨ first = '.') :
    readDecimal? (first :: others) = readUnsigned? (first :: others) := by
  rw [readDecimal?, splitSign_cons starts]
  exact Option.map_id'

/-- What starts with a digit or a point is read without a sign, if there is no mark of hexadecimal
digits in it. -/
theorem readNumber?_eq_readUnsigned? {first : Char} {others : Text}
    (starts : first.isDigit = true ∨ first = '.')
    (unmarked : ∀ char ∈ others, char ≠ 'x' ∧ char ≠ 'X') :
    Arithmetic.readNumber? (first :: others) = readUnsigned? (first :: others) := by
  rw [Arithmetic.readNumber?, hexBody?_eq_none unmarked]
  dsimp only
  rw [readNamedOrDecimal?, splitSign_cons starts]
  dsimp only
  split
  · rename_i named
    exact absurd named (toLower_ne starts (by decide))
  · rename_i named
    exact absurd named (toLower_ne starts (by decide))
  · rename_i named
    exact absurd named (toLower_ne starts (by decide))
  · exact readDecimal?_eq_readUnsigned? starts

/-- Numerals have no mark, sign or name, so they are read as they stand. -/
theorem IsNumeral.readNumber?_eq (numeral : IsNumeral text) :
    Arithmetic.readNumber? text = readUnsigned? text := by
  obtain ⟨first, others, rfl, digit⟩ := numeral.exists_digit
  refine readNumber?_eq_readUnsigned? (.inl digit) fun char member => ?_
  have inside := numeral.isDigit_or_point (List.mem_cons_of_mem _ member)
  constructor
  · rintro rfl
    exact absurd inside (by decide)
  · rintro rfl
    exact absurd inside (by decide)

end Numeral

end Parlance
