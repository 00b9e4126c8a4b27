import Mathlib
import Parlance.Proofs.Number.Parts

/-!
# Exact arithmetic

A finite number has a value, its significand times a power of two. Rounding keeps a value that is
that of a number, whichever way it is written, so that a sum is exact if some number has its value.
Whole numbers of up to 53 digits are such values.
-/

namespace Parlance

open Float.Model Float.Model.UnpackedFloat

namespace Binary

variable {number other : Float} {binary : Binary}

/-- The number without its sign. -/
def magnitude (binary : Binary) : ℚ := binary.significand * 2 ^ binary.exponent

/-- The number as a fraction. -/
def value (binary : Binary) : ℚ := if binary.negative then -binary.magnitude else binary.magnitude

theorem magnitude_nonneg (binary : Binary) : 0 ≤ binary.magnitude := by
  unfold magnitude
  positivity

theorem magnitude_eq_zero_iff : binary.magnitude = 0 ↔ binary.significand = 0 := by
  rw [magnitude, mul_eq_zero_iff_right (by positivity), Nat.cast_eq_zero]

theorem magnitude_pos (counted : 0 < binary.significand) : 0 < binary.magnitude :=
  lt_of_le_of_ne binary.magnitude_nonneg (mt magnitude_eq_zero_iff.1 counted.ne' ∘ Eq.symm)

/-! ### Rounding -/

/-- Shifting drops places one by one. -/
theorem mantissa_shiftRight (mantissa : ExtendedMantissa) (places : Nat) :
    (mantissa >>> places).mantissa = mantissa.mantissa / 2 ^ places := by
  induction places with
  | zero => exact (Nat.div_one _).symm
  | succ places ih =>
      change (mantissa >>> places).mantissa / 2 = _
      rw [ih, Nat.div_div_eq_div_mul, Nat.pow_succ]

/-- Nothing is lost with places that are zero. -/
theorem shiftRight_exact (significand places : Nat) :
    (⟨significand * 2 ^ places, false, false⟩ : ExtendedMantissa) >>> places =
      ⟨significand, false, false⟩ := by
  induction places generalizing significand with
  | zero => rw [Nat.pow_zero, Nat.mul_one]; rfl
  | succ places ih =>
      change ExtendedMantissa.shiftRightOne
        ((⟨significand * 2 ^ (places + 1), false, false⟩ : ExtendedMantissa) >>> places) = _
      rw [Nat.pow_succ', ← Nat.mul_assoc, ih, ExtendedMantissa.shiftRightOne]
      simp

theorem log2_mul_two_pow {significand : Nat} (counted : 0 < significand) (places : Nat) :
    (significand * 2 ^ places).log2 = significand.log2 + places := by
  induction places with
  | zero => simp
  | succ places ih =>
      rw [Nat.pow_succ', Nat.mul_left_comm, Nat.log2_two_mul (by positivity), ih]
      rfl

/-- Places that are zero do not count for the position of the first digit. -/
theorem totalExponent_mul_two_pow {significand : Nat} (counted : 0 < significand) (exponent : Int)
    (places : Nat) :
    totalExponent (significand * 2 ^ places) (exponent - places) =
      totalExponent significand exponent := by
  rw [totalExponent, totalExponent, log2_mul_two_pow counted]
  push_cast
  ring

/-- The exponent that a regular number is rounded to is its own. -/
theorem IsRegular.targetExponent_eq (regular : binary.IsRegular)
    (counted : 0 < binary.significand) :
    Format.binary64.targetExponent (totalExponent binary.significand binary.exponent) =
      binary.exponent := by
  have digits : (Format.binary64.mantissaBits : Int) = 53 := rfl
  have least64 : Format.binary64.minExponent = -1074 := rfl
  have size : unit = 2 ^ 52 := rfl
  obtain ⟨short, least, -, subnormal⟩ := regular
  have upper : binary.significand.log2 < 53 := (Nat.log2_lt counted.ne').2 (by omega)
  rw [Format.targetExponent, totalExponent, digits, least64]
  rw [leastExponent] at *
  by_cases small : binary.significand < unit
  · have exponent := subnormal small
    omega
  · have lower : 52 ≤ binary.significand.log2 := (Nat.le_log2 counted.ne').2 (by omega)
    omega

/-- Rounding keeps a regular number, whatever its last places are. -/
theorem IsRegular.roundWithAccuracy_eq (regular : binary.IsRegular)
    (counted : 0 < binary.significand) (places : Nat) :
    roundWithAccuracy Format.binary64 (signOf binary.negative) (binary.significand * 2 ^ places)
      (binary.exponent - places) .exact = binary.unpacked := by
  have target := regular.targetExponent_eq counted
  rw [unpacked, dif_pos counted]
  simp only [roundWithAccuracy, shiftToTargetExponent, shiftToExponent,
    totalExponent_mul_two_pow counted, target, ExtendedMantissa.ofMantissaAndAccuracy,
    sub_sub_cancel, Int.toNat_natCast, shiftRight_exact, sub_add_cancel,
    ExtendedMantissa.roundedMantissa, ExtendedMantissa.accuracy, Accuracy.roundToNearestEven,
    sub_self, Int.toNat_zero, Nat.cast_zero, add_zero, mantissa_shiftRight, pow_zero, Nat.div_one]
  exact dif_neg counted.ne'

theorem zpow_eq_mul_zpow {low high : Int} (ordered : low ≤ high) :
    (2 : ℚ) ^ high = 2 ^ (high - low).toNat * 2 ^ low := by
  rw [← zpow_natCast, ← zpow_add₀ two_ne_zero, Int.toNat_of_nonneg (by omega), sub_add_cancel]

/-- Two ways to write a magnitude differ by places that are zero. -/
theorem exists_places {mantissa significand : Nat} {exponent other : Int}
    (same : (mantissa : ℚ) * 2 ^ exponent = significand * 2 ^ other) :
    (∃ places : Nat, mantissa = significand * 2 ^ places ∧ exponent = other - places) ∨
      ∃ places : Nat, significand = mantissa * 2 ^ places ∧ other = exponent - places := by
  have shift : ∀ {low high : Nat} {below above : Int}, below ≤ above →
      (low : ℚ) * 2 ^ below = high * 2 ^ above →
      low = high * 2 ^ (above - below).toNat := by
    intro low high below above ordered same
    rw [zpow_eq_mul_zpow ordered, ← mul_assoc] at same
    exact_mod_cast mul_right_cancel₀ (by positivity) same
  rcases le_total exponent other with ordered | ordered
  · exact .inl ⟨(other - exponent).toNat, shift ordered same, by omega⟩
  · exact .inr ⟨(exponent - other).toNat, shift ordered same.symm, by omega⟩

/-- Rounding keeps a regular number, however it is written. -/
theorem IsRegular.round_eq (regular : binary.IsRegular) (counted : 0 < binary.significand)
    {mantissa : Nat} {exponent : Int} (same : mantissa * 2 ^ exponent = binary.magnitude) :
    UnpackedFloat.round Format.binary64 (signOf binary.negative) mantissa exponent =
      binary.unpacked := by
  have target := regular.targetExponent_eq counted
  rcases exists_places same with ⟨places, rfl, rfl⟩ | ⟨places, sameToo, exponentToo⟩
  · have kept : decreaseExponent (binary.significand * 2 ^ places) (binary.exponent - places)
        binary.exponent = (binary.significand * 2 ^ places, binary.exponent - places) := by
      simp [decreaseExponent]
    simp only [UnpackedFloat.round, totalExponent_mul_two_pow counted, target, kept]
    exact regular.roundWithAccuracy_eq counted places
  · have positive : 0 < mantissa := by
      apply Nat.pos_of_ne_zero
      rintro rfl
      omega
    have widened : decreaseExponent mantissa exponent binary.exponent =
        (binary.significand * 2 ^ 0, binary.exponent - (0 : Nat)) := by
      rw [decreaseExponent, Nat.shiftLeft_eq, sameToo, exponentToo]
      simp
    rw [sameToo, exponentToo, totalExponent_mul_two_pow positive, ← exponentToo] at target
    simp only [UnpackedFloat.round, target, widened]
    exact regular.roundWithAccuracy_eq counted 0

/-- Rounding keeps a regular number that is written with a signed significand. -/
theorem IsRegular.normalize_eq (regular : binary.IsRegular) (counted : 0 < binary.significand)
    {mantissa exponent : Int} (sign : Sign) (same : mantissa * 2 ^ exponent = binary.value) :
    UnpackedFloat.normalize Format.binary64 mantissa exponent sign = binary.unpacked := by
  have scale : (0 : ℚ) < 2 ^ exponent := by positivity
  have positive := magnitude_pos counted
  rw [value] at same
  split at same
  · rename_i negative
    have flipped : (-mantissa : ℚ) * 2 ^ exponent = binary.magnitude := by
      rw [neg_mul, same, neg_neg]
    have below : (0 : ℚ) < -mantissa := (mul_pos_iff_of_pos_right scale).1 (flipped ▸ positive)
    have below : mantissa < 0 := by exact_mod_cast neg_pos.1 below
    have cast : ((-mantissa).toNat : ℚ) = -mantissa := by
      exact_mod_cast Int.toNat_of_nonneg (by omega : 0 ≤ -mantissa)
    have rounds := regular.round_eq counted (by rw [cast, flipped])
    rw [negative] at rounds
    rw [UnpackedFloat.normalize, Int.compare_eq_lt.2 below]
    exact rounds
  · rename_i unsigned
    have above : (0 : ℚ) < mantissa := (mul_pos_iff_of_pos_right scale).1 (same ▸ positive)
    have above : 0 < mantissa := by exact_mod_cast above
    have cast : (mantissa.toNat : ℚ) = mantissa := by
      exact_mod_cast Int.toNat_of_nonneg above.le
    have rounds := regular.round_eq counted (by rw [cast, same])
    rw [Bool.eq_false_iff.2 unsigned] at rounds
    rw [UnpackedFloat.normalize, Int.compare_eq_gt.2 above]
    exact rounds

/-! ### What numbers denote -/

/-- The number is finite and has this value. -/
structure Denotes (number : Float) (quantity : ℚ) : Prop where
  finite : isFinite number = true
  value_eq : (ofFloat number).value = quantity

/-- Some number has this value. -/
def IsRepresentable (quantity : ℚ) : Prop :=
  ∃ binary : Binary, binary.IsRegular ∧ binary.value = quantity

theorem value_eq_zero_iff : binary.value = 0 ↔ binary.significand = 0 := by
  rw [value, ← magnitude_eq_zero_iff]
  split
  · exact neg_eq_zero
  · exact Iff.rfl

theorem unpacked_of_zero (nothing : binary.significand = 0) :
    binary.unpacked = .zero (signOf binary.negative) :=
  dif_neg (by omega)

theorem IsRegular.denotes (regular : binary.IsRegular) :
    Denotes ⟨Float.Model.pack binary.unpacked⟩ binary.value := by
  obtain ⟨finite, parts⟩ := regular.pack_spec
  exact ⟨finite, by rw [parts]⟩

theorem isRegular_zero (negative : Bool) : (⟨negative, 0, leastExponent⟩ : Binary).IsRegular :=
  ⟨Nat.mul_pos two_pos unit_pos, le_rfl, (by decide : leastExponent ≤ greatestExponent),
    fun _ => rfl⟩

theorem denotes_zero (sign : Sign) : Denotes ⟨Float.Model.pack (.zero sign)⟩ 0 := by
  obtain ⟨negative, rfl⟩ := exists_signOf sign
  have denotes := (isRegular_zero negative).denotes
  rwa [value_eq_zero_iff.2 rfl, unpacked_of_zero rfl] at denotes

/-- Rounding keeps whatever is the value of a number. -/
theorem denotes_normalize {mantissa exponent : Int}
    (representable : IsRepresentable (mantissa * 2 ^ exponent)) (sign : Sign) :
    Denotes ⟨Float.Model.pack (UnpackedFloat.normalize Format.binary64 mantissa exponent sign)⟩
      (mantissa * 2 ^ exponent) := by
  obtain ⟨binary, regular, same⟩ := representable
  by_cases counted : 0 < binary.significand
  · rw [regular.normalize_eq counted sign same.symm, ← same]
    exact regular.denotes
  · have nothing := value_eq_zero_iff.2 (Nat.eq_zero_of_not_pos counted)
    rw [same, mul_eq_zero_iff_right (by positivity), Int.cast_eq_zero] at nothing
    rw [nothing, Int.cast_zero, zero_mul]
    exact denotes_zero sign

/-! ### Sums -/

theorem apply_signOf (negative : Bool) (mantissa : Nat) :
    (signOf negative).apply mantissa = if negative then -(mantissa : Int) else mantissa := by
  cases negative with
  | false => rfl
  | true => rfl

/-- A smaller exponent takes a greater significand. -/
theorem value_decreaseExponent (binary : Binary) {exponent : Int}
    (least : exponent ≤ binary.exponent) :
    ((signOf binary.negative).apply
        (decreaseExponent binary.significand binary.exponent exponent).1 : Int) *
      (2 : ℚ) ^ exponent = binary.value := by
  rw [apply_signOf, value, magnitude, zpow_eq_mul_zpow least, decreaseExponent,
    Nat.shiftLeft_eq]
  push_cast
  split
  · ring
  · ring

theorem add_eq_pack (finite : isFinite number = true) (finiteToo : isFinite other = true) :
    number + other = ⟨Float.Model.pack (UnpackedFloat.add Format.binary64
      (ofFloat number).unpacked (ofFloat other).unpacked)⟩ := by
  rw [← unpack_of_isFinite finite, ← unpack_of_isFinite finiteToo]
  rfl

section

variable {left right : Binary}

theorem add_of_zero_left (nothing : left.significand = 0) (counted : 0 < right.significand) :
    UnpackedFloat.add Format.binary64 left.unpacked right.unpacked = right.unpacked := by
  rw [unpacked_of_zero nothing, unpacked, dif_pos counted]
  rfl

theorem add_of_zero_right (counted : 0 < left.significand) (nothing : right.significand = 0) :
    UnpackedFloat.add Format.binary64 left.unpacked right.unpacked = left.unpacked := by
  rw [unpacked_of_zero nothing, unpacked, dif_pos counted]
  rfl

/-- Other sums are brought to one exponent and then rounded. -/
theorem exists_add_eq (counted : 0 < left.significand) (countedToo : 0 < right.significand) :
    ∃ mantissa exponent : Int,
      UnpackedFloat.add Format.binary64 left.unpacked right.unpacked =
        UnpackedFloat.normalize Format.binary64 mantissa exponent .positive ∧
      (mantissa : ℚ) * 2 ^ exponent = left.value + right.value := by
  rw [unpacked, unpacked, dif_pos counted, dif_pos countedToo]
  refine ⟨_, _, rfl, ?_⟩
  rw [Int.cast_add, add_mul]
  exact congrArg₂ (· + ·) (value_decreaseExponent left (min_le_left ..))
    (value_decreaseExponent right (min_le_right ..))

end

theorem hasSign_unpacked (binary : Binary) :
    HasSign (signOf binary.negative) binary.unpacked := by
  unfold unpacked
  split
  · rfl
  · rfl

/-- What is below zero carries a minus sign. -/
theorem hasSign_of_value_neg (below : binary.value < 0) : HasSign .negative binary.unpacked := by
  have signed := hasSign_unpacked binary
  by_cases negative : binary.negative = true
  · rwa [negative] at signed
  · rw [value, if_neg negative] at below
    exact absurd below (not_lt.2 binary.magnitude_nonneg)

variable {first second : ℚ}

/-- A sum is exact if it is the value of a number. -/
theorem Denotes.add (left : Denotes number first) (right : Denotes other second)
    (representable : IsRepresentable (first + second)) :
    Denotes (number + other) (first + second) := by
  obtain ⟨finite, rfl⟩ := left
  obtain ⟨finiteToo, rfl⟩ := right
  rw [add_eq_pack finite finiteToo]
  rcases Nat.eq_zero_or_pos (ofFloat number).significand with nothing | counted
  · rw [value_eq_zero_iff.2 nothing, zero_add]
    rcases Nat.eq_zero_or_pos (ofFloat other).significand with nothingToo | countedToo
    · rw [value_eq_zero_iff.2 nothingToo, unpacked_of_zero nothing, unpacked_of_zero nothingToo]
      simp only [UnpackedFloat.add]
      split
      · exact denotes_zero _
      · exact denotes_zero _
    · rw [add_of_zero_left nothing countedToo]
      exact (isRegular_ofFloat finiteToo).denotes
  · rcases Nat.eq_zero_or_pos (ofFloat other).significand with nothingToo | countedToo
    · rw [add_of_zero_right counted nothingToo, value_eq_zero_iff.2 nothingToo, add_zero]
      exact (isRegular_ofFloat finite).denotes
    · obtain ⟨mantissa, exponent, sum, same⟩ := exists_add_eq counted countedToo
      rw [← same] at representable ⊢
      rw [sum]
      exact denotes_normalize representable .positive

/-- A sum below zero carries a minus sign, even if it is not exact. -/
theorem Denotes.hasSign_add (left : Denotes number first) (right : Denotes other second)
    (below : first + second < 0) : HasSign .negative (number + other).toModel.unpack := by
  obtain ⟨finite, rfl⟩ := left
  obtain ⟨finiteToo, rfl⟩ := right
  rw [add_eq_pack finite finiteToo]
  apply HasSign.pack
  rcases Nat.eq_zero_or_pos (ofFloat number).significand with nothing | counted
  · rw [value_eq_zero_iff.2 nothing, zero_add] at below
    have countedToo : 0 < (ofFloat other).significand :=
      Nat.pos_of_ne_zero fun none => below.ne (value_eq_zero_iff.2 none)
    rw [add_of_zero_left nothing countedToo]
    exact hasSign_of_value_neg below
  · rcases Nat.eq_zero_or_pos (ofFloat other).significand with nothingToo | countedToo
    · rw [value_eq_zero_iff.2 nothingToo, add_zero] at below
      rw [add_of_zero_right counted nothingToo]
      exact hasSign_of_value_neg below
    · obtain ⟨mantissa, exponent, sum, same⟩ := exists_add_eq counted countedToo
      rw [← same] at below
      have negative := Int.cast_lt_zero.1 (neg_of_mul_neg_left below (by positivity))
      rw [sum, UnpackedFloat.normalize, Int.compare_eq_lt.2 negative]
      exact hasSign_roundWithAccuracy ..

/-- A sum with an infinity is this infinity. -/
theorem hasSign_add_of_infinite {sign : Sign} (finite : isFinite number = true)
    (infinite : other.toModel.unpack = .infinity sign) :
    HasSign sign (number + other).toModel.unpack := by
  change HasSign sign (Float.Model.pack
    (UnpackedFloat.add Format.binary64 number.toModel.unpack other.toModel.unpack)).unpack
  apply HasSign.pack
  rw [infinite, unpack_of_isFinite finite, unpacked]
  split
  · rfl
  · rfl

/-! ### Whole numbers -/

/-- A whole number with as many places behind the point as its digits leave. -/
def ofWhole (whole : Int) : Binary :=
  let places := 52 - whole.natAbs.log2
  ⟨decide (whole < 0), whole.natAbs * 2 ^ places, -(places : Int)⟩

theorem isRegular_ofWhole {whole : Int} (counted : 0 < whole.natAbs)
    (short : whole.natAbs < 2 * unit) : (ofWhole whole).IsRegular := by
  have size : unit = 2 ^ 52 := rfl
  have digits : whole.natAbs.log2 < 53 := (Nat.log2_lt counted.ne').2 (by omega)
  have places : whole.natAbs.log2 + (52 - whole.natAbs.log2) = 52 := by omega
  have lower : unit ≤ (ofWhole whole).significand := by
    rw [size, ← places, pow_add]
    exact Nat.mul_le_mul_right _ (Nat.log2_self_le counted.ne')
  have upper : (ofWhole whole).significand < 2 * unit := by
    rw [size, ← pow_succ', ← places, Nat.add_right_comm, pow_add]
    exact Nat.mul_lt_mul_of_pos_right Nat.lt_log2_self (by positivity)
  refine ⟨upper, ?_, ?_, fun small => absurd small (not_lt.2 lower)⟩
  · simp only [ofWhole, leastExponent]
    omega
  · simp only [ofWhole, greatestExponent]
    omega

theorem value_ofWhole (whole : Int) : (ofWhole whole).value = whole := by
  have cut : (ofWhole whole).magnitude = whole.natAbs := by
    rw [magnitude, ofWhole]
    push_cast
    rw [zpow_neg, zpow_natCast, mul_inv_cancel_right₀ (by positivity)]
  have sign : (ofWhole whole).negative = decide (whole < 0) := rfl
  rw [value, cut, sign, Nat.cast_natAbs]
  by_cases below : whole < 0
  · rw [if_pos (decide_eq_true below), abs_of_neg below, Int.cast_neg, neg_neg]
  · rw [if_neg (mt of_decide_eq_true below), abs_of_nonneg (not_lt.1 below)]

/-- Whole numbers below twice the unit are values of numbers. -/
theorem isRepresentable_intCast {whole : Int} (short : whole.natAbs < 2 * unit) :
    IsRepresentable whole := by
  rcases Nat.eq_zero_or_pos whole.natAbs with zero | counted
  · rw [Int.natAbs_eq_zero.1 zero, Int.cast_zero]
    exact ⟨_, isRegular_zero false, value_eq_zero_iff.2 rfl⟩
  · exact ⟨_, isRegular_ofWhole counted short, value_ofWhole whole⟩

/-- One times a number has the value of the number. -/
theorem Denotes.times_one {quantity : ℚ} (denotes : Denotes number quantity) :
    Denotes (number * Float.ofBits 0x3FF0000000000000) quantity := by
  obtain ⟨finite, rfl⟩ := denotes
  have one : ofFloat (Float.ofBits 0x3FF0000000000000) = ⟨false, unit, -52⟩ := by decide +kernel
  have product : number * Float.ofBits 0x3FF0000000000000 =
      ⟨Float.Model.pack (UnpackedFloat.mul Format.binary64 (ofFloat number).unpacked
        (ofFloat (Float.ofBits 0x3FF0000000000000)).unpacked)⟩ := by
    rw [← unpack_of_isFinite finite, ← unpack_of_isFinite (by decide +kernel)]
    rfl
  have regular := isRegular_ofFloat finite
  rw [product, one]
  by_cases counted : 0 < (ofFloat number).significand
  · have rounds := regular.roundWithAccuracy_eq counted 52
    have sign : signOf (ofFloat number).negative * signOf false =
        signOf (ofFloat number).negative := by
      cases (ofFloat number).negative with
      | false => rfl
      | true => rfl
    have kept : UnpackedFloat.mul Format.binary64 (ofFloat number).unpacked
        (⟨false, unit, -52⟩ : Binary).unpacked = (ofFloat number).unpacked := by
      refine Eq.trans ?_ rounds
      rw [unpacked, dif_pos counted, unpacked, dif_pos unit_pos, UnpackedFloat.mul, sign]
      rfl
    rw [kept]
    exact regular.denotes
  · have nothing := Nat.eq_zero_of_not_pos counted
    rw [value_eq_zero_iff.2 nothing, unpacked_of_zero nothing]
    exact denotes_zero _

/-- Counts below twice the unit are exact. -/
theorem denotes_ofNat {count : Nat} (short : count < 2 * unit) :
    Denotes (Float.ofNat count) count := by
  have small : count < 2 ^ 53 ∧ 0 ≤ 22 := ⟨short, by decide⟩
  have size : unit = 2 ^ 52 := rfl
  have same : count.toUInt64.toNat = count :=
    UInt64.toNat_ofNat_of_lt' (Nat.lt_trans small.1 (by decide))
  have whole : IsRepresentable (((count : Int) : ℚ) * 2 ^ (0 : ℤ)) := by
    rw [zpow_zero, mul_one]
    exact isRepresentable_intCast short
  have denotes := denotes_normalize whole .positive
  rw [zpow_zero, mul_one, Int.cast_natCast] at denotes
  have converted : count.toUInt64.toFloat =
      ⟨Float.Model.pack (UnpackedFloat.normalize Format.binary64 count 0 .positive)⟩ := by
    change (⟨Float.Model.pack (UnpackedFloat.normalize Format.binary64
      (count.toUInt64.toNat : Int) 0 .positive)⟩ : Float) = _
    rw [same]
  change Denotes (Float.ofScientific count false 0) _
  rw [Float.ofScientific, dif_pos small]
  rw [← converted] at denotes
  exact denotes.times_one

end Binary

end Parlance
