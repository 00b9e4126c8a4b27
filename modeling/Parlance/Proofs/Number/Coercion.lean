import Parlance.Proofs.Number.Form
import Parlance.Proofs.Number.Parts
import Parlance.Proofs.Number.Written

/-!
# Texts taken for numbers

A numeral is taken for the number that it is read as, and what is written for a number is taken for
that number. Only the sign of zero is lost, since both zeros are written alike.
-/

namespace Parlance.Numeral

variable {text digits : Text} {char : Char} {number : Float}

/-! ### Visible texts -/

/-- No character of the text is blank. -/
def IsVisible (text : Text) : Prop := ∀ char ∈ text, Unicode.isBlank char = false

/-- All plain characters above the space are visible. -/
theorem isBlank_of_plain (above : 32 < char.toNat) (plain : char.toNat < 128) :
    Unicode.isBlank char = false := by
  simp only [Unicode.isBlank, Unicode.blankRuns, List.any_cons, List.any_nil, Bool.or_false,
    Bool.or_eq_false_iff, Bool.and_eq_false_iff, decide_eq_false_iff_not]
  omega

theorem isBlank_of_isDigit (digit : char.isDigit = true) : Unicode.isBlank char = false := by
  refine isBlank_of_plain ?_ (toNat_lt_of_isDigit digit)
  simp only [Char.isDigit, Bool.and_eq_true, decide_eq_true_eq, ge_iff_le,
    UInt32.le_iff_toNat_le] at digit
  have lower : 48 ≤ char.toNat := digit.1
  omega

theorem isBlank_of_hexDigit? (digit : (hexDigit? char).isSome = true) :
    Unicode.isBlank char = false := by
  obtain ⟨value, digit⟩ := Option.isSome_iff_exists.1 digit
  refine isBlank_of_plain ?_ (toNat_lt_of_hexDigit? digit)
  simp only [hexDigit?, Char.le_def, UInt32.le_iff_toNat_le] at digit
  split at digit
  · rename_i range
    have lower : 48 ≤ char.toNat := range.1
    omega
  · split at digit
    · rename_i range
      have lower : 97 ≤ char.toNat := range.1
      omega
    · split at digit
      · rename_i range
        have lower : 65 ≤ char.toNat := range.1
        omega
      · cases digit

theorem isVisible_cons :
    IsVisible (char :: text) ↔ Unicode.isBlank char = false ∧ IsVisible text := by
  simp [IsVisible]

/-- There is nothing to trim from a visible text. -/
theorem IsVisible.trim_eq (visible : IsVisible text) : text.trim = text := by
  have kept : ∀ text : Text, IsVisible text → text.dropWhile Unicode.isBlank = text := by
    intro text visible
    cases text with
    | nil => rfl
    | cons char text => exact List.dropWhile_cons_of_neg (by simp [visible char])
  have reversed : IsVisible text.reverse :=
    fun char member => visible char (List.mem_reverse.1 member)
  rw [Text.trim, kept text visible, kept _ reversed, List.reverse_reverse]

theorem IsUnsignedNumeral.isVisible (isNumeral : IsUnsignedNumeral text) : IsVisible text := by
  cases isNumeral with
  | hexadecimal marks _ isDigits =>
      rw [isVisible_cons, isVisible_cons]
      refine ⟨rfl, ?_, fun char member => isBlank_of_hexDigit? (isDigits char member)⟩
      rcases marks with rfl | rfl
      · rfl
      · rfl
  | decimal isMantissa isExponent =>
      intro char member
      rcases List.mem_append.1 member with inMantissa | inExponent
      · rcases isMantissa.isDigit_or_point inMantissa with digit | rfl
        · exact isBlank_of_isDigit digit
        · rfl
      · rcases isExponent.isDigit_or_mem inExponent with digit | other
        · exact isBlank_of_isDigit digit
        · simp only [List.mem_cons, List.not_mem_nil, or_false] at other
          rcases other with rfl | rfl | rfl | rfl
          · rfl
          · rfl
          · rfl
          · rfl

/-! ### Numerals -/

/-- A visible text with a digit or a point in front, or behind a sign, is read as a decimal numeral if
it has no mark of hexadecimal digits. -/
theorem coerce_of_splitSign {negative : Bool} {first : Char} {others : Text}
    (visible : IsVisible text) (signs : splitSign text = (negative, first :: others))
    (starts : first.isDigit = true ∨ first = '.') (noBody : hexBody? text = none) :
    coerce text =
      ((readUnsigned? (first :: others)).map (signed negative)).getD Binary.undefinedResult := by
  -- The names of infinity have a letter there.
  have noName : ∀ {name : String} {letters : Text}, String.ofList text = name →
      (splitSign name.toList).2 ≠ 'I' :: letters := by
    rintro name letters rfl same
    rw [String.toList_ofList, signs] at same
    cases same
    exact absurd starts (by decide)
  have nonempty : ¬text.isEmpty = true := by
    rw [List.isEmpty_iff]
    rintro rfl
    cases signs
  simp only [coerce, visible.trim_eq, noBody]
  rw [if_neg nonempty, readDecimal?, signs]
  split
  · exact absurd rfl (noName ‹_›)
  · exact absurd rfl (noName ‹_›)
  · exact absurd rfl (noName ‹_›)
  · rfl

/-- A numeral is taken for the number that it is read as. -/
theorem IsUnsignedNumeral.coerce_eq (isNumeral : IsUnsignedNumeral text) :
    coerce text = (Arithmetic.readNumber? text).getD Binary.undefinedResult := by
  have visible := isNumeral.isVisible
  cases isNumeral with
  | hexadecimal marks nonempty =>
      simp only [coerce, visible.trim_eq, Arithmetic.readNumber?]
      rcases marks with rfl | rfl
      · rfl
      · rfl
  | decimal isMantissa isExponent =>
      obtain ⟨first, others, same, starts, unmarked⟩ := isMantissa.exists_unmarked isExponent
      rw [same] at visible ⊢
      rw [readNumber?_eq_readUnsigned? starts unmarked,
        coerce_of_splitSign visible (splitSign_cons starts) starts (hexBody?_eq_none unmarked)]
      exact congrArg (Option.getD · _) Option.map_id'

theorem IsNumeral.isUnsignedNumeral (isNumeral : IsNumeral text) : IsUnsignedNumeral text := by
  rw [← List.append_nil text]
  cases isNumeral with
  | whole isDigits => exact .decimal (.whole isDigits) .none
  | fraction isWhole isFraction => exact .decimal (.pointed isWhole isFraction.2) .none

/-- A minus sign in front of a numeral negates what it is taken for. -/
theorem IsNumeral.coerce_minus (isNumeral : IsNumeral text)
    (reads : Arithmetic.readNumber? text = some number) : coerce ('-' :: text) = -number := by
  have visible : IsVisible ('-' :: text) :=
    isVisible_cons.2 ⟨rfl, isNumeral.isUnsignedNumeral.isVisible⟩
  rw [isNumeral.readNumber?_eq] at reads
  obtain ⟨first, others, rfl, digit⟩ := isNumeral.exists_digit
  rw [coerce_of_splitSign visible rfl (.inl digit) rfl, reads]
  rfl

/-! ### Written numbers -/

/-- Only the two zeros equal zero. -/
theorem beq_zero_eq (finite : Binary.isFinite number = true) :
    (number == 0) = decide ((Binary.ofFloat number).significand = 0) := by
  change number.toModel.unpack.beq (Float.Model.UnpackedFloat.zero .positive) = _
  rw [Binary.unpack_of_isFinite finite, Binary.unpacked]
  split
  · rename_i counted
    rw [decide_eq_false (Nat.pos_iff_ne_zero.1 counted)]
    cases (Binary.ofFloat number).negative with
    | false => rfl
    | true => rfl
  · rename_i nothing
    rw [decide_eq_true (Nat.eq_zero_of_not_pos nothing)]
    rfl

/-- Shortest decimals have no sign. -/
theorem shortest_opposite (binary : Binary) :
    Decimal.shortest binary.opposite = Decimal.shortest binary := by
  have same : ∀ (interval : Decimal.Interval) (fuel : Nat) (exponent : Int),
      Decimal.search binary.opposite interval fuel exponent =
        Decimal.search binary interval fuel exponent := by
    intro interval fuel
    induction fuel with
    | zero =>
        intro _
        rfl
    | succ fuel ih =>
        intro exponent
        have grid : Decimal.onGrid? binary.opposite interval exponent =
            Decimal.onGrid? binary interval exponent := rfl
        rw [Decimal.search, Decimal.search, grid, ih]
  exact same _ _ _

/-- A number with a sign is written as its opposite with a minus sign, unless it is zero. -/
theorem write_of_isNegative (finite : Binary.isFinite number = true)
    (negative : Binary.isNegative number = true)
    (counted : (Binary.ofFloat number).significand ≠ 0) :
    (write number).toList = '-' :: (write (-number)).toList := by
  obtain ⟨finiteToo, unsigned⟩ := Binary.isUnsigned_neg finite negative
  rw [write_of_finite finiteToo unsigned, (Binary.neg_spec finite).2, shortest_opposite,
    Binary.significand_opposite, if_neg counted, write,
    Binary.isNaN_of_isFinite finite, finite]
  dsimp only [Bool.not_true]
  rw [if_neg (by decide), if_neg (by decide), if_neg counted,
    if_pos ((Binary.negative_ofFloat number).trans negative), String.toList_ofList]

theorem write_of_zero (finite : Binary.isFinite number = true)
    (nothing : (Binary.ofFloat number).significand = 0) : write number = "0" := by
  rw [write, Binary.isNaN_of_isFinite finite, finite]
  exact if_pos nothing

theorem coerce_write_of_isFinite (finite : Binary.isFinite number = true)
    (counted : (Binary.ofFloat number).significand ≠ 0) :
    coerce (write number).toList = number := by
  cases negative : Binary.isNegative number with
  | false =>
      have unsigned : Binary.IsUnsigned number := ⟨Binary.isNaN_of_isFinite finite, negative⟩
      rw [(isNumeral_write finite unsigned).isUnsignedNumeral.coerce_eq,
        readNumber?_write finite unsigned]
      rfl
  | true =>
      obtain ⟨finiteToo, unsigned⟩ := Binary.isUnsigned_neg finite negative
      rw [write_of_isNegative finite negative counted,
        (isNumeral_write finiteToo unsigned).coerce_minus (readNumber?_write finiteToo unsigned),
        Binary.neg_neg_of_isFinite finite]

/-- What is written for a number is taken for it, and what is written for either zero is taken for the
zero without a sign. -/
theorem coerce_write (number : Float) :
    coerce (write number).toList = if number == 0 then 0 else number := by
  cases defined : number.isNaN with
  | true =>
      rw [Float.isNaN_eq_decide_eq_nan, decide_eq_true_eq] at defined
      rw [defined, Float.nan_beq_eq_false]
      rfl
  | false =>
      cases finite : Binary.isFinite number with
      | false =>
          rw [Binary.eq_of_infinite finite defined]
          cases Binary.isNegative number with
          | false => rfl
          | true => rfl
      | true =>
          rw [beq_zero_eq finite]
          by_cases nothing : (Binary.ofFloat number).significand = 0
          · rw [write_of_zero finite nothing, decide_eq_true nothing]
            rfl
          · rw [decide_eq_false nothing]
            exact coerce_write_of_isFinite finite nothing

end Parlance.Numeral
