import Parlance.Proofs.Pattern.Anchor
import Parlance.Proofs.Pattern.Taking

/-!
# The shape of a pattern

What a marker finds, told from the shape of its pattern. A choice between fixed texts finds the first
of them that the text ahead starts with. Any pattern finds nothing in front of a character with which
it cannot start, and sets of plain characters can be tested on all of these.
-/

namespace Parlance

/-! ### Plain characters -/

/-- The test succeeds on every plain character. -/
def onPlain (test : Char → Bool) : Bool :=
  (List.range 128).all fun code => test (Char.ofNat code)

theorem of_onPlain {test : Char → Bool} (succeeds : onPlain test = true) {char : Char}
    (plain : char.toNat < 128) : test char = true := by
  have here := List.all_eq_true.1 succeeds char.toNat (List.mem_range.2 plain)
  rwa [Char.ofNat_toNat] at here

namespace CharSet

/-- Whether the set certainly has only plain characters. -/
def isPlain : CharSet → Bool
  | empty => true
  | range _ high => decide (high.toNat < 128)
  | union left right => left.isPlain && right.isPlain
  | inter left right => left.isPlain || right.isPlain
  | _ => false

variable {set : CharSet} {char : Char}

theorem toNat_lt_of_isPlain (plain : set.isPlain = true) (member : set.contains char = true) :
    char.toNat < 128 := by
  induction set with
  | empty => cases member
  | range low high =>
      simp only [contains, Bool.and_eq_true, decide_eq_true_eq] at member
      exact Nat.lt_of_le_of_lt (Nat.le_of_lt_succ (Nat.lt_succ_of_le member.2))
        (of_decide_eq_true plain)
  | union left right ihLeft ihRight =>
      obtain ⟨plainLeft, plainRight⟩ := Bool.and_eq_true_iff.1 plain
      rcases Bool.or_eq_true_iff.1 member with inLeft | inRight
      · exact ihLeft plainLeft inLeft
      · exact ihRight plainRight inRight
  | inter left right ihLeft ihRight =>
      obtain ⟨inLeft, inRight⟩ := Bool.and_eq_true_iff.1 member
      rcases Bool.or_eq_true_iff.1 plain with plainLeft | plainRight
      · exact ihLeft plainLeft inLeft
      · exact ihRight plainRight inRight
  | _ => cases plain

/-- Whether the set has exactly the plain characters that pass the test. -/
def isTest (set : CharSet) (test : Char → Bool) : Bool :=
  set.isPlain && onPlain fun char => set.contains char == test char

theorem contains_eq_of_isTest {test : Char → Bool} (same : set.isTest test = true)
    (plain : ∀ char, test char = true → char.toNat < 128) (char : Char) :
    set.contains char = test char := by
  obtain ⟨isPlain, agrees⟩ := Bool.and_eq_true_iff.1 same
  by_cases low : char.toNat < 128
  · exact eq_of_beq (of_onPlain agrees low)
  · rw [Bool.eq_iff_iff]
    exact iff_of_false (mt (toNat_lt_of_isPlain isPlain) low) (mt (plain char) low)

end CharSet

namespace Pattern

variable {pattern : Pattern} {text ahead : Text} {texts : List Text}

/-! ### Fixed texts -/

/-- The text whose characters the pattern asks for in a row. -/
def text? : Pattern → Option Text
  | empty => some []
  | chars (.range low high) => if low = high then some [low] else none
  | seq (chars (.range low high)) rest =>
      if low = high then rest.text?.map (low :: ·) else none
  | _ => none

theorem contains_single {char other : Char} :
    (CharSet.single char).contains other = true ↔ other = char := by
  simp only [CharSet.single, CharSet.contains, Bool.and_eq_true, decide_eq_true_eq]
  constructor
  · exact fun both => Char.le_antisymm both.2 both.1
  · rintro rfl
    exact ⟨Char.le_refl _, Char.le_refl _⟩

theorem stops_single {char : Char} (apart : ∀ rest, ahead ≠ char :: rest) :
    (chars (.single char)).Stops ahead := by
  refine stops_chars fun other first => ?_
  rw [← Bool.not_eq_true, contains_single]
  rintro rfl
  obtain ⟨rest, same⟩ := List.head?_eq_some_iff.1 first
  exact apart rest same

/-- A text in a row is taken. -/
theorem takes_of_text? (read : pattern.text? = some text) (rest : Text) :
    pattern.Takes text rest := by
  fun_induction text? pattern generalizing text with
  | case1 =>
      cases read
      exact takes_empty rest
  | case2 char =>
      cases read
      exact takes_chars (contains_single.2 rfl) rest
  | case3 => cases read
  | case4 char behind ih =>
      obtain ⟨others, readBehind, rfl⟩ := Option.map_eq_some_iff.1 read
      exact takes_seq (takes_chars (contains_single.2 rfl) _) (ih readBehind)
  | case5 => cases read
  | case6 => cases read

/-- In front of anything else, nothing is taken. -/
theorem stops_of_text? (read : pattern.text? = some text) (apart : ¬text <+: ahead) :
    pattern.Stops ahead := by
  fun_induction text? pattern generalizing text ahead with
  | case1 =>
      cases read
      exact absurd List.nil_prefix apart
  | case2 char =>
      cases read
      apply stops_single
      rintro rest rfl
      exact apart ⟨rest, rfl⟩
  | case3 => cases read
  | case4 char behind ih =>
      obtain ⟨others, readBehind, rfl⟩ := Option.map_eq_some_iff.1 read
      by_cases first : ∃ rest, ahead = char :: rest
      · obtain ⟨rest, rfl⟩ := first
        exact stops_seq_chars (ih readBehind (mt (List.prefix_cons_inj char).2 apart))
      · exact stops_seq (stops_single fun rest same => first ⟨rest, same⟩)
  | case5 => cases read
  | case6 => cases read

/-- The texts that the pattern is a choice between. -/
def texts? : Pattern → Option (List Text)
  | alt first rest => do
      let text ← first.text?
      let texts ← rest.texts?
      return text :: texts
  | pattern => pattern.text?.map ([·])

/-- The choice takes the first of the texts that stands ahead. -/
theorem takes_of_texts? (read : pattern.texts? = some texts) {found rest : Text}
    (first : texts.find? (·.isPrefixOf (found ++ rest)) = some found) : pattern.Takes found rest := by
  fun_induction texts? pattern generalizing texts with
  | case1 left right ih =>
      obtain ⟨text, readText, remaining⟩ := Option.bind_eq_some_iff.1 read
      obtain ⟨others, readOthers, together⟩ := Option.bind_eq_some_iff.1 remaining
      cases together
      rw [List.find?_cons] at first
      split at first
      · cases first
        exact takes_alt_left (takes_of_text? readText rest)
      · rename_i absent
        refine takes_alt_right (stops_of_text? readText ?_) (ih readOthers first)
        rw [← List.isPrefixOf_iff_prefix, absent]
        simp
  | case2 pattern _ =>
      obtain ⟨text, readText, rfl⟩ := Option.map_eq_some_iff.1 read
      obtain rfl := List.mem_singleton.1 (List.mem_of_find?_eq_some first)
      exact takes_of_text? readText rest

/-- The choice stops where none of the texts stands ahead. -/
theorem stops_of_texts? (read : pattern.texts? = some texts)
    (none : texts.find? (·.isPrefixOf ahead) = none) : pattern.Stops ahead := by
  have apart : ∀ text ∈ texts, ¬text <+: ahead := by
    intro text member within
    exact List.find?_eq_none.1 none text member (List.isPrefixOf_iff_prefix.2 within)
  clear none
  fun_induction texts? pattern generalizing texts with
  | case1 left right ih =>
      obtain ⟨text, readText, remaining⟩ := Option.bind_eq_some_iff.1 read
      obtain ⟨others, readOthers, together⟩ := Option.bind_eq_some_iff.1 remaining
      cases together
      exact stops_alt (stops_of_text? readText (apart text (by simp)))
        (ih readOthers fun other member => apart other (by simp [member]))
  | case2 pattern _ =>
      obtain ⟨text, readText, rfl⟩ := Option.map_eq_some_iff.1 read
      exact stops_of_text? readText (apart text (by simp))

end Pattern

/-! ### What a matcher finds -/

/-- The pattern of the searcher behind the anchor. -/
def Searcher.body? : Searcher → Option Pattern
  | direct (.seq (.assertion .textStart) body) => some body
  | _ => none

namespace Matcher

variable {matcher : Matcher} {body : Pattern} {text rest ahead : Text}

theorem match?_eq_walk (shape : matcher.searcher.body? = some body) :
    matcher.match? ahead =
      ((body.walk (.start ahead) fun there => some there.ahead).map ahead.upTo).filter
        (!·.isEmpty) := by
  unfold Searcher.body? at shape
  split at shape
  · rename_i found
    cases shape
    rw [match?, found]
    simp [Searcher.find?, Pattern.anchored, Pattern.walkFrom?, Pattern.walk, Assertion.holds,
      Place.start]
  · cases shape

theorem match?_of_takes (shape : matcher.searcher.body? = some body)
    (takes : body.Takes text rest) (some : text ≠ []) :
    matcher.match? (text ++ rest) = Option.some text := by
  rw [match?_eq_walk shape, Place.start, takes none _ rest fun _ => rfl]
  simp [Text.upTo_append, some]

theorem match?_of_stops (shape : matcher.searcher.body? = some body) (stops : body.Stops ahead) :
    matcher.match? ahead = none := by
  rw [match?_eq_walk shape, Place.start, stops none]
  rfl

/-- What is found, the pattern behind the anchor matches. -/
theorem spells_of_match? (shape : matcher.searcher.body? = some body)
    (found : matcher.match? ahead = some text) : body.Spells text := by
  unfold Searcher.body? at shape
  split at shape
  · rename_i direct
    cases shape
    have finds := (Option.filter_eq_some_iff.1 found).1
    rw [direct] at finds
    obtain ⟨_, _, rfl, rfl, spells⟩ := Searcher.spells_of_find? (by rfl) finds
    exact spells
  · cases shape

/-- The fixed texts that the matcher chooses between. -/
def texts? (matcher : Matcher) : Option (List Text) :=
  matcher.searcher.body?.bind Pattern.texts?

/-- Between fixed texts, the first one that the text ahead starts with is found, unless it is
empty. -/
theorem match?_eq_filter {texts : List Text} (read : matcher.texts? = some texts) :
    matcher.match? ahead = (texts.find? (·.isPrefixOf ahead)).filter (!·.isEmpty) := by
  obtain ⟨body, shape, readBody⟩ := Option.bind_eq_some_iff.1 read
  cases found : texts.find? (·.isPrefixOf ahead) with
  | none => exact match?_of_stops shape (Pattern.stops_of_texts? readBody found)
  | some text =>
      have within : text <+: ahead := by simpa using List.find?_some found
      obtain ⟨rest, rfl⟩ := within
      have takes := Pattern.takes_of_texts? readBody found
      rw [match?_eq_walk shape, Place.start, takes none _ rest fun _ => rfl, Option.map_some,
        Text.upTo_append]

/-- Between fixed texts that are not empty, the first one that the text ahead starts with is
found. -/
theorem match?_of_texts? {texts : List Text} (read : matcher.texts? = some texts)
    (some : [] ∉ texts) : matcher.match? ahead = texts.find? (·.isPrefixOf ahead) := by
  rw [match?_eq_filter read]
  cases found : texts.find? (·.isPrefixOf ahead) with
  | none => rfl
  | some text =>
      have member := List.mem_of_find?_eq_some found
      have nonempty : text ≠ [] := fun same => some (same ▸ member)
      simp [nonempty]

/-- Whether no match of the matcher starts with the character. -/
def isIdleAt (matcher : Matcher) (char : Char) : Bool :=
  matcher.searcher.body?.any fun body => !body.canStart char && !body.nullable

theorem match?_of_isIdleAt {char : Char} (idle : matcher.isIdleAt char = true) (rest : Text) :
    matcher.match? (char :: rest) = none := by
  unfold isIdleAt at idle
  cases shape : matcher.searcher.body? with
  | none =>
      rw [shape] at idle
      cases idle
  | some body =>
      rw [shape, Option.any_some, Bool.and_eq_true, Bool.not_eq_true', Bool.not_eq_true'] at idle
      exact match?_of_stops shape (Pattern.stops_of_canStart idle.1 idle.2 rest)

end Matcher

end Parlance
