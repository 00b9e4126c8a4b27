import Parlance.Proofs.Arithmetic.Compiled
import Parlance.Proofs.Arithmetic.Fault
import Parlance.Proofs.Number.Form

/-!
# Literals and their tokens

The marker of numbers takes the decimal digits of all scripts, and the reader of numbers knows only
plain ones. So a number token is read exactly if it is plain. Every string token is read. No other
literal can make compilation fail.
-/

namespace Parlance

open Numeral

namespace Pattern

variable {set : CharSet} {least : Nat} {most : Option Nat} {greedy : Bool} {text : Text}

/-- Rounds of single characters match texts of these characters. -/
theorem spells_rounds_chars (spells : (rounds (chars set) least most greedy).Spells text) :
    (∀ char ∈ text, set.contains char = true) ∧ least ≤ text.length ∧
      ∀ limit ∈ most, text.length ≤ max least limit := by
  obtain ⟨parts, rfl, each, counts⟩ := spells
  have length : parts.flatten.length = parts.length := by
    rw [List.length_flatten, List.map_congr_left (g := fun _ => 1), List.map_const', List.sum_replicate]
    · simp
    · intro part member
      obtain ⟨char, _, rfl⟩ := each part member
      rfl
  refine ⟨fun char member => ?_, by rw [length]; exact counts⟩
  obtain ⟨part, among, inside⟩ := List.mem_flatten.1 member
  obtain ⟨only, within, rfl⟩ := each part among
  rw [List.mem_singleton.1 inside]
  exact within

end Pattern

namespace Arithmetic

/-- Whether the set has exactly these characters, all of which are plain. -/
def takesOneOf (chars : List Char) (set : CharSet) : Bool :=
  chars.all (decide <| ·.toNat < 128) && set.isTest (chars.contains ·)

/-- Whether the plain characters of the set are the plain digits. -/
def takesDigits (set : CharSet) : Bool := onPlain fun char => set.contains char == char.isDigit

/-- Whether the pattern takes hexadecimal digits behind their mark, and digits with or without a point
and an exponent. Which digits it takes that are not plain is left open. -/
def isNumeralPattern : Pattern → Bool
  | .alt (.seq (.chars zero) (.seq (.chars mark) (.rounds (.chars hexadecimal) 1 none true)))
      (.seq
        (.alt
          (.seq (.rounds (.chars whole) 1 none true)
            (.seq (.rounds (.chars point) 0 (some 1) true)
              (.rounds (.chars fraction) 0 none true)))
          (.seq (.chars first) (.rounds (.chars digits) 1 none true)))
        (.rounds
          (.seq (.chars exponent)
            (.seq (.rounds (.chars sign) 0 (some 1) true) (.rounds (.chars power) 1 none true)))
          0 (some 1) true)) =>
      takesOneOf ['0'] zero && takesOneOf ['x', 'X'] mark &&
        hexadecimal.isTest (fun char => (hexDigit? char).isSome) && takesDigits whole &&
        takesOneOf ['.'] point && takesDigits fraction && takesOneOf ['.'] first &&
        takesDigits digits && takesOneOf ['e', 'E'] exponent && takesOneOf ['+', '-'] sign &&
        takesDigits power
  | _ => false

theorem number_shaped : shapeAt 8 isNumeralPattern = true := by
  decide +kernel

section

variable {set : CharSet} {pattern : Pattern} {text : Text} {node : Node} {id : TermId}

/-- Plain rounds of digits are plain digits. -/
theorem isDigit_of_spells {least : Nat} (takes : takesDigits set = true)
    (spells : (Pattern.rounds (.chars set) least none true).Spells text) (plain : IsPlain text) :
    (∀ char ∈ text, char.isDigit = true) ∧ least ≤ text.length := by
  obtain ⟨within, enough, _⟩ := Pattern.spells_rounds_chars spells
  refine ⟨fun char member => ?_, enough⟩
  rw [← eq_of_beq (of_onPlain takes (plain char member))]
  exact within char member

theorem isDigits_of_spells (takes : takesDigits set = true)
    (spells : (Pattern.rounds (.chars set) 1 none true).Spells text) (plain : IsPlain text) :
    IsDigits text := by
  obtain ⟨isDigits, some⟩ := isDigit_of_spells takes spells plain
  exact ⟨List.ne_nil_of_length_pos some, isDigits⟩

theorem mem_of_takesOneOf {chars : List Char} {char : Char} (takes : takesOneOf chars set = true)
    (member : set.contains char = true) : char ∈ chars := by
  rw [takesOneOf, Bool.and_eq_true, List.all_eq_true] at takes
  have plain : ∀ char, chars.contains char = true → char.toNat < 128 := fun char among =>
    of_decide_eq_true (takes.1 char (by simpa using among))
  rw [CharSet.contains_eq_of_isTest takes.2 plain] at member
  simpa using member

theorem exists_of_spells_chars {chars : List Char} (takes : takesOneOf chars set = true)
    (spells : (Pattern.chars set).Spells text) : ∃ char ∈ chars, text = [char] := by
  obtain ⟨char, member, rfl⟩ := spells
  exact ⟨char, mem_of_takesOneOf takes member, rfl⟩

/-- One character or none. -/
theorem exists_of_spells_optional {chars : List Char} (takes : takesOneOf chars set = true)
    (spells : (Pattern.rounds (.chars set) 0 (some 1) true).Spells text) :
    text = [] ∨ ∃ char ∈ chars, text = [char] := by
  obtain ⟨within, _, most⟩ := Pattern.spells_rounds_chars spells
  have short : text.length ≤ 1 := most 1 rfl
  match text with
  | [] => exact .inl rfl
  | [char] => exact .inr ⟨char, mem_of_takesOneOf takes (within char (by simp)), rfl⟩

variable {first second third fourth : CharSet}

theorem isHexadecimal_of_spells (zero : takesOneOf ['0'] first = true)
    (mark : takesOneOf ['x', 'X'] second = true)
    (hexadecimal : third.isTest (fun char => (hexDigit? char).isSome) = true)
    (spells : (Pattern.seq (.chars first)
      (.seq (.chars second) (.rounds (.chars third) 1 none true))).Spells text) :
    IsUnsignedNumeral text := by
  obtain ⟨_, _, rfl, start, _, digits, rfl, marked, behind⟩ := spells
  obtain ⟨_, isZero, rfl⟩ := exists_of_spells_chars zero start
  obtain ⟨char, isMark, rfl⟩ := exists_of_spells_chars mark marked
  obtain rfl := List.mem_singleton.1 isZero
  obtain ⟨within, some, _⟩ := Pattern.spells_rounds_chars behind
  have plain : ∀ char, (hexDigit? char).isSome = true → char.toNat < 128 := by
    intro char digit
    obtain ⟨value, found⟩ := Option.isSome_iff_exists.1 digit
    exact toNat_lt_of_hexDigit? found
  refine .hexadecimal (by simpa using isMark) (List.ne_nil_of_length_pos some) fun digit member => ?_
  exact (CharSet.contains_eq_of_isTest hexadecimal plain digit).symm.trans (within digit member)

theorem isMantissa_of_spells (whole : takesDigits first = true)
    (point : takesOneOf ['.'] second = true) (fraction : takesDigits third = true)
    (spells : (Pattern.seq (.rounds (.chars first) 1 none true)
      (.seq (.rounds (.chars second) 0 (some 1) true)
        (.rounds (.chars third) 0 none true))).Spells text) (plain : IsPlain text) :
    IsMantissa text := by
  obtain ⟨digits, _, rfl, before, _, others, rfl, between, behind⟩ := spells
  simp only [isPlain_append] at plain
  have isWhole := isDigits_of_spells whole before plain.1
  have isFraction := (isDigit_of_spells fraction behind plain.2.2).1
  obtain rfl | ⟨_, isPoint, rfl⟩ := exists_of_spells_optional point between
  · refine .whole ⟨by simp [isWhole.1], fun char member => ?_⟩
    rcases List.mem_append.1 member with inWhole | inFraction
    · exact isWhole.2 char inWhole
    · exact isFraction char inFraction
  · obtain rfl := List.mem_singleton.1 isPoint
    exact .pointed isWhole isFraction

theorem isFraction_of_spells (point : takesOneOf ['.'] first = true)
    (digits : takesDigits second = true)
    (spells : (Pattern.seq (.chars first) (.rounds (.chars second) 1 none true)).Spells text)
    (plain : IsPlain text) : IsMantissa text := by
  obtain ⟨_, others, rfl, start, behind⟩ := spells
  obtain ⟨_, isPoint, rfl⟩ := exists_of_spells_chars point start
  obtain rfl := List.mem_singleton.1 isPoint
  exact .fraction (isDigits_of_spells digits behind (isPlain_append.1 plain).2)

theorem isExponent_of_spells (mark : takesOneOf ['e', 'E'] first = true)
    (sign : takesOneOf ['+', '-'] second = true) (power : takesDigits third = true)
    (spells : (Pattern.rounds (.seq (.chars first) (.seq (.rounds (.chars second) 0 (some 1) true)
      (.rounds (.chars third) 1 none true))) 0 (some 1) true).Spells text)
    (plain : IsPlain text) : IsExponent text := by
  obtain ⟨parts, rfl, each, _, most⟩ := spells
  have short : parts.length ≤ 1 := most 1 rfl
  match parts with
  | [] => exact .none
  | [part] =>
      obtain ⟨_, _, same, marked, signs, digits, rfl, signed, behind⟩ := each part (by simp)
      obtain ⟨char, isMark, rfl⟩ := exists_of_spells_chars mark marked
      rw [List.flatten_singleton, same] at plain ⊢
      simp only [isPlain_append] at plain
      have isDigits := isDigits_of_spells power behind plain.2.2
      refine @IsExponent.digits char signs digits (by simpa using isMark) ?_ isDigits
      obtain rfl | ⟨_, isSign, rfl⟩ := exists_of_spells_optional sign signed
      · exact .inl rfl
      · right
        simpa using isSign

/-- A plain text that the pattern takes is a numeral. -/
theorem isUnsignedNumeral_of_spells (shape : isNumeralPattern pattern = true)
    (spells : pattern.Spells text) (plain : IsPlain text) : IsUnsignedNumeral text := by
  unfold isNumeralPattern at shape
  split at shape
  · simp only [Bool.and_eq_true] at shape
    obtain ⟨⟨⟨⟨⟨⟨⟨⟨⟨⟨zero, mark⟩, hexadecimal⟩, whole⟩, point⟩, fraction⟩, first⟩, digits⟩,
      exponent⟩, sign⟩, power⟩ := shape
    rcases spells with spells | ⟨mantissa, tail, rfl, mantissaSpells, tailSpells⟩
    · exact isHexadecimal_of_spells zero mark hexadecimal spells
    · rw [isPlain_append] at plain
      refine .decimal ?_ (isExponent_of_spells exponent sign power tailSpells plain.2)
      rcases mantissaSpells with spells | spells
      · exact isMantissa_of_spells whole point fraction spells plain.1
      · exact isFraction_of_spells first digits spells plain.1
  · cases shape

/-- A number token is read exactly if it is plain. -/
theorem exists_readNumber?_iff (matched : grammar.Matched node) (named : node.name = "number") :
    (∃ value, readNumber? (textOf node) = some value) ↔ IsPlain (textOf node) := by
  constructor
  · rintro ⟨value, reads⟩
    exact isPlain_of_readNumber? reads
  · intro plain
    obtain ⟨pattern, shape, spells⟩ := exists_spells matched number_shaped (by rw [named]; decide)
    exact (isUnsignedNumeral_of_spells shape spells plain).exists_readNumber?

/-- Every string token of a source is read, and a number token exactly if it is plain. So if a
literal makes compilation fail, it is a number token of the source with a digit that is not plain. -/
theorem literals_agree (source : Text) :
    (∀ options tree node, grammar.parse options source = .ok tree → tree.Contains node →
      (node.IsTokenOf "string" → ∃ text, readString? (textOf node) = some text) ∧
      (node.IsTokenOf "number" →
        ((∃ value, readNumber? (textOf node) = some value) ↔ IsPlain (textOf node)))) ∧
    ∀ text offset, compile source = .error (.invalidLiteral text offset) →
      ∃ tree node, grammar.parse .plain source = .ok tree ∧ tree.Contains node ∧
        node.IsTokenOf "number" ∧ textOf node = text ∧ node.position = offset ∧
        StandsIn source node ∧ ¬IsPlain text := by
  have strings : ∀ {options tree node}, grammar.parse options source = .ok tree →
      tree.Contains node → node.IsTokenOf "string" →
      ∃ text, readString? (textOf node) = some text :=
    fun parsed contains named => readString?_of_parse parsed contains named
  have numbers : ∀ {options tree node}, grammar.parse options source = .ok tree →
      tree.Contains node → node.IsTokenOf "number" →
      ((∃ value, readNumber? (textOf node) = some value) ↔ IsPlain (textOf node)) :=
    fun parsed contains named => exists_readNumber?_iff
      (Grammar.parse_matchesTokens parsed _ contains named.1) named.2
  refine ⟨fun _ _ _ parsed contains => ⟨strings parsed contains, numbers parsed contains⟩, ?_⟩
  intro text offset fails
  obtain ⟨_, ⟨⟩, _⟩ | ⟨bracket, failsWithin, blames⟩ := compile_eq_error fails
  cases blames with
  | @literal node member unreadable =>
      have stands := failsWithin.standsIn (.child .self member)
      obtain ⟨tree, parsed, within, _⟩ := failsWithin.within
      have contains : tree.Contains node := .child within member
      rcases unreadable with ⟨named, unread⟩ | ⟨named, unread⟩
      · refine ⟨tree, node, parsed, contains, named, rfl, rfl, stands, fun plain => ?_⟩
        obtain ⟨value, reads⟩ := (numbers parsed contains named).2 plain
        rw [unread] at reads
        cases reads
      · obtain ⟨text, reads⟩ := strings parsed contains named
        rw [unread] at reads
        cases reads

theorem literals_agree_digits :
    (∃ tree, grammar.parse .plain "'٣' + 0x1f".toList = .ok tree ∧ ∀ node, tree.Contains node →
      (node.IsTokenOf "string" → ∃ text, readString? (textOf node) = some text) ∧
      (node.IsTokenOf "number" →
        ((∃ value, readNumber? (textOf node) = some value) ↔ IsPlain (textOf node)))) ∧
    compile "1 + ٣".toList = .error (.invalidLiteral "٣".toList 4) ∧
    ∃ tree node, grammar.parse .plain "1 + ٣".toList = .ok tree ∧ tree.Contains node ∧
      node.IsTokenOf "number" ∧ textOf node = "٣".toList ∧ node.position = 4 ∧
      StandsIn "1 + ٣".toList node ∧ ¬IsPlain "٣".toList := by
  have succeeds : (grammar.parse .plain "'٣' + 0x1f".toList).toOption.isSome = true := by
    decide +kernel
  have fails : compile "1 + ٣".toList = .error (.invalidLiteral "٣".toList 4) :=
    map_eq_error_iff.1 (show (compile _).map (fun _ => ()) = _ by decide +kernel)
  obtain ⟨tree, parsed⟩ := Option.isSome_iff_exists.1 succeeds
  have parsed := toOption_eq_some_iff.1 parsed
  exact ⟨⟨tree, parsed, fun node => (literals_agree _).1 _ _ node parsed⟩, fails,
    (literals_agree _).2 _ _ fails⟩

/-- A decimal digit of another script is a number token of the source that is not read. -/
theorem not_literals_read :
    ¬∀ source text offset, compile source ≠ .error (.invalidLiteral text offset) := by
  intro never
  have fails : compile "٣".toList = .error (.invalidLiteral "٣".toList 0) :=
    map_eq_error_iff.1 (show (compile _).map (fun _ => ()) = _ by decide +kernel)
  exact never _ _ _ fails

end

end Arithmetic

end Parlance
