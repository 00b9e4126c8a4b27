import Parlance.Proofs.Number.Reading

/-!
# The form of numerals

Which texts are read as numbers without a sign: hexadecimal digits behind their mark, and digits with
or without a point and an exponent. Nothing that is read, whatever its form, has other characters than
plain ones.
-/

namespace Parlance.Numeral

/-- Digits, or digits with a point before, between or behind them. -/
inductive IsMantissa : Text → Prop where
  | whole {digits : Text} (isDigits : IsDigits digits) : IsMantissa digits
  | pointed {whole fraction : Text} (isWhole : IsDigits whole)
      (isFraction : ∀ char ∈ fraction, char.isDigit = true) : IsMantissa (whole ++ '.' :: fraction)
  | fraction {digits : Text} (isDigits : IsDigits digits) : IsMantissa ('.' :: digits)

/-- Nothing, or a mark with digits behind it, which may have a sign. -/
inductive IsExponent : Text → Prop where
  | none : IsExponent []
  | digits {mark : Char} {sign digits : Text} (marks : mark = 'e' ∨ mark = 'E')
      (isSign : sign = [] ∨ sign = ['+'] ∨ sign = ['-']) (isDigits : IsDigits digits) :
      IsExponent (mark :: sign ++ digits)

/-- A hexadecimal numeral, or a decimal one that may have an exponent. -/
inductive IsUnsignedNumeral : Text → Prop where
  | hexadecimal {mark : Char} {digits : Text} (marks : mark = 'x' ∨ mark = 'X') (some : digits ≠ [])
      (isDigits : ∀ char ∈ digits, (hexDigit? char).isSome = true) :
      IsUnsignedNumeral ('0' :: mark :: digits)
  | decimal {mantissa exponent : Text} (isMantissa : IsMantissa mantissa)
      (isExponent : IsExponent exponent) : IsUnsignedNumeral (mantissa ++ exponent)

variable {text digits exponent : Text} {char : Char}

/-! ### Numerals are read -/

/-- Hexadecimal digits are read, at least one, and nothing else is. -/
theorem isSome_readHex?_iff :
    (readHex? digits).isSome = true ↔
      digits ≠ [] ∧ ∀ char ∈ digits, (hexDigit? char).isSome = true := by
  have steps : ∀ (digits : Text) (total : Float),
      (digits.foldlM (fun (total : Float) digit =>
        (hexDigit? digit).map fun value => total * 16 + Float.ofNat value) total).isSome = true ↔
      ∀ char ∈ digits, (hexDigit? char).isSome = true := by
    intro digits
    induction digits with
    | nil => simp
    | cons digit digits ih =>
        intro total
        rw [List.foldlM_cons, List.forall_mem_cons]
        cases hexDigit? digit with
        | none => simp
        | some value => simpa using ih (total * 16 + Float.ofNat value)
  rw [readHex?]
  split
  · rename_i nothing
    simp [List.isEmpty_iff.1 nothing]
  · rename_i something
    rw [steps]
    simp [List.isEmpty_iff.not.1 something]

theorem IsExponent.head (isExponent : IsExponent exponent) :
    ∀ char ∈ exponent.head?, char = 'e' ∨ char = 'E' := by
  cases isExponent with
  | none => simp
  | digits marks => simpa using marks

theorem IsExponent.exists_readExponent? (isExponent : IsExponent exponent) :
    ∃ value, readExponent? exponent = some value := by
  cases isExponent with
  | none => exact ⟨0, rfl⟩
  | @digits mark sign digits marks isSign isDigits =>
      have span := spanDigits_of_isDigit isDigits.2
      have noSign : splitSign digits = (false, digits) := splitSign_of_head fun char head => by
        have digit := isDigits.2 char (List.mem_of_mem_head? head)
        constructor
        · rintro rfl
          exact absurd digit (by decide)
        · rintro rfl
          exact absurd digit (by decide)
      rcases isSign with rfl | rfl | rfl
      · simp [readExponent?, marks, noSign, span, isDigits.isEmpty_eq_false]
      · simp [readExponent?, marks, splitSign, span, isDigits.isEmpty_eq_false]
      · simp [readExponent?, marks, splitSign, span, isDigits.isEmpty_eq_false]

/-- A mantissa with an exponent is read. -/
theorem IsMantissa.exists_readUnsigned? (isMantissa : IsMantissa text)
    (isExponent : IsExponent exponent) :
    ∃ value, readUnsigned? (text ++ exponent) = some value := by
  obtain ⟨power, reads⟩ := isExponent.exists_readExponent?
  have noDigit : ∀ char ∈ exponent.head?, char.isDigit = false := by
    intro char head
    rcases isExponent.head char head with rfl | rfl <;> rfl
  cases isMantissa with
  | whole isDigits =>
      have noPoint : ∀ rest, exponent ≠ '.' :: rest := by
        rintro rest rfl
        exact absurd (isExponent.head '.' rfl) (by decide)
      have span := spanDigits_append isDigits.2 noDigit
      simp [readUnsigned?, span, isDigits.isEmpty_eq_false, reads]
  | @pointed whole fraction isWhole isFraction =>
      have spanWhole := @spanDigits_append ('.' :: (fraction ++ exponent)) whole isWhole.2 (by simp)
      have spanFraction := spanDigits_append isFraction noDigit
      simp [readUnsigned?, spanWhole, spanFraction, isWhole.isEmpty_eq_false, reads]
  | @fraction digits isDigits =>
      have spanWhole := @spanDigits_append ('.' :: (digits ++ exponent)) [] (by simp) (by simp)
      have spanFraction := spanDigits_append isDigits.2 noDigit
      rw [List.nil_append] at spanWhole
      simp [readUnsigned?, spanWhole, spanFraction, isDigits.isEmpty_eq_false, reads]

theorem IsMantissa.exists_first (isMantissa : IsMantissa text) :
    ∃ first others, text = first :: others ∧ (first.isDigit = true ∨ first = '.') := by
  cases isMantissa with
  | whole isDigits =>
      obtain ⟨first, others, rfl⟩ := List.exists_cons_of_ne_nil isDigits.1
      exact ⟨first, others, rfl, .inl (isDigits.2 first (by simp))⟩
  | pointed isWhole =>
      obtain ⟨first, others, rfl⟩ := List.exists_cons_of_ne_nil isWhole.1
      exact ⟨first, _, rfl, .inl (isWhole.2 first (by simp))⟩
  | fraction => exact ⟨'.', _, rfl, .inr rfl⟩

theorem IsMantissa.isDigit_or_point (isMantissa : IsMantissa text) (member : char ∈ text) :
    char.isDigit = true ∨ char = '.' := by
  cases isMantissa with
  | whole isDigits => exact .inl (isDigits.2 char member)
  | pointed isWhole isFraction =>
      simp only [List.mem_append, List.mem_cons] at member
      rcases member with inWhole | isPoint | inFraction
      · exact .inl (isWhole.2 char inWhole)
      · exact .inr isPoint
      · exact .inl (isFraction char inFraction)
  | fraction isDigits =>
      rcases List.mem_cons.1 member with isPoint | inDigits
      · exact .inr isPoint
      · exact .inl (isDigits.2 char inDigits)

theorem IsExponent.isDigit_or_mem (isExponent : IsExponent exponent) (member : char ∈ exponent) :
    char.isDigit = true ∨ char ∈ ['e', 'E', '+', '-'] := by
  cases isExponent with
  | none => cases member
  | digits marks isSign isDigits =>
      simp only [List.cons_append, List.mem_cons, List.mem_append] at member
      rcases member with rfl | inSign | inDigits
      · rcases marks with rfl | rfl <;> simp
      · rcases isSign with rfl | rfl | rfl <;> simp_all
      · exact .inl (isDigits.2 char inDigits)

/-- A decimal numeral starts with a digit or a point and has no mark of hexadecimal digits. -/
theorem IsMantissa.exists_unmarked (isMantissa : IsMantissa text)
    (isExponent : IsExponent exponent) :
    ∃ first others, text ++ exponent = first :: others ∧
      (first.isDigit = true ∨ first = '.') ∧ ∀ char ∈ others, char ≠ 'x' ∧ char ≠ 'X' := by
  obtain ⟨first, others, rfl, starts⟩ := isMantissa.exists_first
  refine ⟨first, others ++ exponent, rfl, starts, fun char member => ?_⟩
  have inside : (char.isDigit = true ∨ char = '.') ∨
      char.isDigit = true ∨ char ∈ ['e', 'E', '+', '-'] :=
    (List.mem_append.1 member).imp
      (fun inMantissa => isMantissa.isDigit_or_point (List.mem_cons_of_mem _ inMantissa))
      isExponent.isDigit_or_mem
  constructor
  · rintro rfl
    exact absurd inside (by decide)
  · rintro rfl
    exact absurd inside (by decide)

/-- All numerals are read. -/
theorem IsUnsignedNumeral.exists_readNumber? (isNumeral : IsUnsignedNumeral text) :
    ∃ value, Arithmetic.readNumber? text = some value := by
  cases isNumeral with
  | hexadecimal marks nonempty isDigits =>
      obtain ⟨value, reads⟩ :=
        Option.isSome_iff_exists.1 (isSome_readHex?_iff.2 ⟨nonempty, isDigits⟩)
      rcases marks with rfl | rfl
      · exact ⟨value, reads⟩
      · exact ⟨value, reads⟩
  | @decimal mantissa exponent isMantissa isExponent =>
      obtain ⟨value, reads⟩ := isMantissa.exists_readUnsigned? isExponent
      obtain ⟨first, others, same, starts, unmarked⟩ := isMantissa.exists_unmarked isExponent
      rw [same] at reads ⊢
      exact ⟨value, (readNumber?_eq_readUnsigned? starts unmarked).trans reads⟩

/-! ### What is read is plain -/

/-- All characters of the text are plain. -/
def IsPlain (text : Text) : Prop := ∀ char ∈ text, char.toNat < 128

theorem toNat_lt_of_isDigit (digit : char.isDigit = true) : char.toNat < 128 := by
  simp only [Char.isDigit, Bool.and_eq_true, decide_eq_true_eq, UInt32.le_iff_toNat_le] at digit
  have upper : char.toNat ≤ 57 := digit.2
  omega

theorem toNat_lt_of_hexDigit? {value : Nat} (digit : hexDigit? char = some value) :
    char.toNat < 128 := by
  simp only [hexDigit?, Char.le_def, UInt32.le_iff_toNat_le] at digit
  split at digit
  · rename_i range
    have upper : char.toNat ≤ 57 := range.2
    omega
  · split at digit
    · rename_i range
      have upper : char.toNat ≤ 102 := range.2
      omega
    · split at digit
      · rename_i range
        have upper : char.toNat ≤ 70 := range.2
        omega
      · cases digit

theorem toNat_lt_of_toLower (lower : char.toLower.toNat < 128) : char.toNat < 128 := by
  by_cases upper : char.isUpper
  · simp only [Char.isUpper, decide_eq_true_eq, UInt32.le_iff_toNat_le] at upper
    have bound : char.toNat ≤ 90 := upper.2
    omega
  · rwa [Char.toLower_eq_of_not_isUpper upper] at lower

theorem isPlain_cons : IsPlain (char :: text) ↔ char.toNat < 128 ∧ IsPlain text := by
  simp [IsPlain]

theorem isPlain_append {left right : Text} : IsPlain (left ++ right) ↔ IsPlain left ∧ IsPlain right := by
  simp [IsPlain, or_imp, forall_and]

/-- What comes before the first other character is plain. -/
theorem isPlain_of_spanDigits (plain : IsPlain (spanDigits text).2) : IsPlain text := by
  rw [spanDigits] at plain
  rw [← @List.takeWhile_append_dropWhile _ Char.isDigit text]
  refine isPlain_append.2 ⟨fun char member => ?_, plain⟩
  exact toNat_lt_of_isDigit (List.mem_takeWhile_imp member)

theorem isPlain_of_spanFraction (plain : IsPlain (spanFraction text).2) : IsPlain text := by
  unfold spanFraction at plain
  split at plain
  · exact isPlain_cons.2 ⟨by decide, isPlain_of_spanDigits plain⟩
  · exact plain

theorem isPlain_of_splitSign (plain : IsPlain (splitSign text).2) : IsPlain text := by
  unfold splitSign at plain
  split at plain
  · exact isPlain_cons.2 ⟨by decide, plain⟩
  · exact isPlain_cons.2 ⟨by decide, plain⟩
  · exact plain

theorem isPlain_of_readHex? {number : Float} (reads : readHex? digits = some number) :
    IsPlain digits := by
  intro char member
  have isDigits := (isSome_readHex?_iff.1 (Option.isSome_of_eq_some reads)).2
  obtain ⟨value, found⟩ := Option.isSome_iff_exists.1 (isDigits char member)
  exact toNat_lt_of_hexDigit? found

theorem isPlain_of_readExponent? {power : Int} (reads : readExponent? exponent = some power) :
    IsPlain exponent := by
  unfold readExponent? at reads
  split at reads
  · intro _ member
    cases member
  · rename_i mark rest
    split at reads
    · rename_i marks
      dsimp only at reads
      split at reads
      · cases reads
      · rename_i complete
        have nothing : (spanDigits (splitSign rest).2).2 = [] := by
          simp only [Bool.or_eq_true, not_or] at complete
          simpa using complete.2
        refine isPlain_cons.2 ⟨?_, isPlain_of_splitSign (isPlain_of_spanDigits ?_)⟩
        · rcases marks with rfl | rfl <;> decide
        · rw [nothing]
          intro _ member
          cases member
    · cases reads

theorem isPlain_of_readUnsigned? {number : Float} (reads : readUnsigned? text = some number) :
    IsPlain text := by
  obtain ⟨_, _, power, behind⟩ := exists_of_readUnsigned? reads
  exact isPlain_of_spanDigits (isPlain_of_spanFraction (isPlain_of_readExponent? behind))

/-- A name in any case is plain. -/
theorem isPlain_of_toLower {name : String} (named : String.ofList (text.map Char.toLower) = name)
    (plain : IsPlain name.toList) : IsPlain text := by
  intro char member
  refine toNat_lt_of_toLower (plain _ ?_)
  rw [← named, String.toList_ofList]
  exact List.mem_map_of_mem member

/-- Whatever is read as a number is plain. -/
theorem isPlain_of_readNumber? {number : Float} (reads : Arithmetic.readNumber? text = some number) :
    IsPlain text := by
  rw [Arithmetic.readNumber?] at reads
  split at reads
  · rename_i digits body
    have behind := isPlain_of_readHex? reads
    unfold hexBody? at body
    split at body
    · cases body
      exact isPlain_cons.2 ⟨by decide, isPlain_cons.2 ⟨by decide, behind⟩⟩
    · cases body
      exact isPlain_cons.2 ⟨by decide, isPlain_cons.2 ⟨by decide, behind⟩⟩
    · cases body
  · refine isPlain_of_splitSign ?_
    rw [readNamedOrDecimal?] at reads
    dsimp only at reads
    split at reads
    · rename_i named
      exact isPlain_of_toLower named (by simp [IsPlain])
    · rename_i named
      exact isPlain_of_toLower named (by simp [IsPlain])
    · rename_i named
      exact isPlain_of_toLower named (by simp [IsPlain])
    · obtain ⟨magnitude, found, _⟩ := Option.map_eq_some_iff.1 reads
      exact isPlain_of_readUnsigned? found

end Parlance.Numeral
