import Mathlib.Data.List.Sort
import Parlance.Proofs.Pattern.Shape
import Parlance.Tree.Parsing

/-!
# Markers of fixed texts

A marker of fixed texts is a choice between them with the longest first. So it finds the longest of
them that the text ahead starts with, whatever characters they have and in whatever order they were
written down. The empty text is never found, and it never hides another one, since all that start
the text ahead are empty once the first of them is.
-/

namespace Parlance

namespace Marker

variable {text : Text} {texts : List Text}

/-- Putting the longest texts first sorts them by their length in bytes. -/
theorem longestFirst_eq_insertionSort (texts : List Text) : longestFirst texts =
    texts.insertionSort fun first second => second.byteLength ≤ first.byteLength := by
  have placed (text : Text) (texts : List Text) : placeByLength text texts =
      texts.orderedInsert (fun first second => second.byteLength ≤ first.byteLength) text := by
    induction texts with
    | nil => rfl
    | cons other rest ih => simp only [placeByLength, List.orderedInsert, ih]
  induction texts with
  | nil => rfl
  | cons text rest ih =>
      rw [longestFirst] at ih ⊢
      rw [List.foldr_cons, placed, ih, List.insertionSort_cons]

theorem mem_longestFirst : text ∈ longestFirst texts ↔ text ∈ texts := by
  rw [longestFirst_eq_insertionSort, List.mem_insertionSort]

theorem longestFirst_pairwise (texts : List Text) :
    (longestFirst texts).Pairwise fun first second => second.byteLength ≤ first.byteLength := by
  rw [longestFirst_eq_insertionSort]
  exact List.pairwise_insertionSort _ _

theorem longestFirst_perm (texts : List Text) : (longestFirst texts).Perm texts := by
  rw [longestFirst_eq_insertionSort]
  exact List.perm_insertionSort _ texts

/-- The branches are the texts with longer ones first, but for the empty one. -/
theorem mem_branches (some : text ≠ []) : text ∈ branches texts ↔ text ∈ texts := by
  cases texts with
  | nil => simp [branches, some]
  | cons first rest => exact mem_longestFirst

theorem branches_pairwise (texts : List Text) :
    (branches texts).Pairwise fun first second => second.byteLength ≤ first.byteLength := by
  cases texts with
  | nil => exact List.pairwise_singleton _ _
  | cons first rest => exact longestFirst_pairwise _

end Marker

namespace Pattern

variable {text : Text} {texts : List Text}

@[simp] theorem text?_literal (text : Text) : (literal text).text? = some text := by
  induction text with
  | nil => rfl
  | cons char rest ih =>
      cases rest with
      | nil =>
          change (if char = char then some [char] else none) = _
          rw [if_pos rfl]
      | cons other rest =>
          change (if char = char then (literal (other :: rest)).text?.map (char :: ·) else none) = _
          rw [if_pos rfl, ih, Option.map_some]

theorem texts?_literal (text : Text) : (literal text).texts? = some [text] := by
  have read : (literal text).texts? = (literal text).text?.map ([·]) := by
    cases text with
    | nil => rfl
    | cons char rest => cases rest <;> rfl
  rw [read, text?_literal, Option.map_some]

/-- The texts of a choice between literals are read off it. -/
theorem texts?_choice (some : texts ≠ []) :
    (choice (texts.map literal)).texts? = Option.some texts := by
  induction texts with
  | nil => exact absurd rfl some
  | cons text rest ih =>
      cases rest with
      | nil => exact texts?_literal text
      | cons other rest =>
          have split : (choice ((text :: other :: rest).map literal)).texts? =
              (literal text).text?.bind fun first =>
                (choice ((other :: rest).map literal)).texts?.bind fun others =>
                  Option.some (first :: others) := rfl
          rw [split, text?_literal, ih (by simp)]
          rfl

/-- A literal is as large as its text is long; only the empty one has a size of its own. -/
theorem size_literal (text : Text) : (literal text).size = max 1 text.byteLength := by
  induction text with
  | nil => rfl
  | cons char rest ih =>
      have positive := char.utf8Size_pos
      have size : (chars (.single char)).size = char.utf8Size := if_pos rfl
      cases rest with
      | nil =>
          change (chars (.single char)).size = _
          rw [size, Text.byteLength_cons, Text.byteLength_nil]
          omega
      | cons other rest =>
          have least := other.utf8Size_pos
          change (chars (.single char)).size + (literal (other :: rest)).size = _
          rw [size, ih]
          simp only [Text.byteLength_cons]
          omega

/-- A literal is steady and has one way to match. -/
theorem literal_direct (text : Text) : (literal text).steady = true ∧ (literal text).ways = 1 := by
  induction text with
  | nil => exact ⟨rfl, rfl⟩
  | cons char rest ih =>
      cases rest with
      | nil => exact ⟨rfl, rfl⟩
      | cons other rest =>
          obtain ⟨steady, ways⟩ := ih
          refine ⟨steady, ?_⟩
          change 1 * (literal (other :: rest)).ways = 1
          rw [ways]

/-- A choice between literals has no more ways to match than parts. -/
theorem choice_direct (texts : List Text) :
    (choice (texts.map literal)).steady = true ∧
      (choice (texts.map literal)).ways ≤ (choice (texts.map literal)).size := by
  induction texts with
  | nil => exact ⟨rfl, Nat.le_refl _⟩
  | cons text rest ih =>
      obtain ⟨steady, ways⟩ := literal_direct text
      have size : 1 ≤ (literal text).size := by
        rw [size_literal]
        exact Nat.le_max_left _ _
      cases rest with
      | nil => exact ⟨steady, ways.symm ▸ size⟩
      | cons other rest =>
          obtain ⟨steadyBehind, fewer⟩ := ih
          refine ⟨Bool.and_eq_true_iff.2 ⟨steady, steadyBehind⟩, ?_⟩
          change (literal text).ways + (choice ((other :: rest).map literal)).ways ≤
            (literal text).size + (choice ((other :: rest).map literal)).size + 1
          omega

/-- The size of a choice between literals, with one more for the anchor in front of it. -/
theorem size_choice (some : texts ≠ []) : 1 + (choice (texts.map literal)).size =
    (texts.map fun text => max 1 text.byteLength + 1).sum := by
  induction texts with
  | nil => exact absurd rfl some
  | cons text rest ih =>
      have size := size_literal text
      cases rest with
      | nil =>
          change 1 + (literal text).size = _
          simp only [List.map_singleton, List.sum_singleton]
          omega
      | cons other rest =>
          have behind := ih (by simp)
          have whole : ((text :: other :: rest).map fun text => max 1 text.byteLength + 1).sum =
              max 1 text.byteLength + 1 + (1 + (choice ((other :: rest).map literal)).size) :=
            behind ▸ List.sum_cons
          change 1 + ((literal text).size + (choice ((other :: rest).map literal)).size + 1) = _
          omega

/-- An anchored choice between literals is matched directly. -/
theorem isDirect_anchoredChoice (texts : List Text) : (anchoredChoice texts).isDirect = true := by
  obtain ⟨steady, few⟩ := choice_direct texts
  rw [isDirect, Bool.and_eq_true, decide_eq_true_eq]
  refine ⟨steady, Nat.le_trans ?_ (Nat.le_max_right _ _)⟩
  change 1 * (choice (texts.map literal)).ways ≤ 1 + (choice (texts.map literal)).size
  omega

end Pattern

/-- The text is the longest of the texts that start the text ahead, and not empty. -/
structure Text.Longest (texts : List Text) (ahead text : Text) : Prop where
  member : text ∈ texts
  within : text <+: ahead
  nonempty : text ≠ []
  longest : ∀ other ∈ texts, other <+: ahead → other.byteLength ≤ text.byteLength

/-- At every boundary between the characters of an input, the matcher finds the longest of the texts
that stands there, and nothing if there is none but the empty one. -/
def Matcher.FindsLongest (matcher : Matcher) (texts : List Text) : Prop :=
  ∀ before ahead : Text,
    (∀ found, matcher.matchAtOffset? (before ++ ahead) before.byteLength = some found ↔
      Text.Longest texts ahead found) ∧
    (matcher.matchAtOffset? (before ++ ahead) before.byteLength = none ↔
      ∀ text ∈ texts, text <+: ahead → text = [])

/-- The marker can be made ready exactly if its texts, with one more for each, are not longer
together than a pattern may be. What is made of it finds the longest of them. -/
def Marker.FindsLongest (marker : Marker) (texts : List Text) : Prop :=
  ((∃ matcher, marker.matcher = .ok matcher) ↔
    (texts.map fun text => max 1 text.byteLength + 1).sum ≤ Pattern.sizeLimit) ∧
  ∀ matcher, marker.matcher = .ok matcher → matcher.FindsLongest texts

namespace Text

variable {texts : List Text} {ahead text other : Text}

/-- Only one text of a given length starts another one. -/
theorem eq_of_byteLength (within : text <+: ahead) (withinToo : other <+: ahead)
    (same : text.byteLength = other.byteLength) : text = other := by
  rcases List.prefix_or_prefix_of_prefix within withinToo with ⟨rest, rfl⟩ | ⟨rest, rfl⟩
  all_goals
    rw [byteLength_append] at same
    have nothing : byteLength rest = 0 := by omega
    rw [byteLength_eq_zero.1 nothing, List.append_nil]

/-- There is a first one of the texts that start the text ahead. -/
theorem exists_find? (member : text ∈ texts) (within : text <+: ahead) :
    ∃ first, texts.find? (·.isPrefixOf ahead) = some first ∧ first ∈ texts ∧ first <+: ahead := by
  have some : (texts.find? (·.isPrefixOf ahead)).isSome = true :=
    List.find?_isSome.2 ⟨text, member, List.isPrefixOf_iff_prefix.2 within⟩
  obtain ⟨first, found⟩ := Option.isSome_iff_exists.1 some
  exact ⟨first, found, List.mem_of_find?_eq_some found, by simpa using List.find?_some found⟩

/-- Of texts with longer ones first, the first that starts the text ahead is the longest. -/
theorem longest_of_find?
    (sorted : texts.Pairwise fun first second => second.byteLength ≤ first.byteLength)
    (found : texts.find? (·.isPrefixOf ahead) = some text) (member : other ∈ texts)
    (within : other <+: ahead) : other.byteLength ≤ text.byteLength := by
  obtain ⟨_, before, behind, rfl, apart⟩ := List.find?_eq_some_iff_append.1 found
  rcases List.mem_append.1 member with earlier | later
  · have absent := apart other earlier
    rw [List.isPrefixOf_iff_prefix.2 within] at absent
    cases absent
  · rcases List.mem_cons.1 later with rfl | later
    · exact Nat.le_refl _
    · exact (List.pairwise_cons.1 (List.pairwise_append.1 sorted).2.1).1 other later

/-- The empty text does not matter for which text is the longest. -/
theorem Longest.congr {others : List Text} (longest : Longest texts ahead text)
    (same : ∀ text ≠ [], text ∈ texts ↔ text ∈ others) : Longest others ahead text := by
  refine ⟨(same text longest.nonempty).1 longest.member, longest.within, longest.nonempty, ?_⟩
  intro other member within
  by_cases empty : other = []
  · simp [empty]
  · exact longest.longest other ((same other empty).2 member) within

end Text

namespace Matcher

variable {matcher : Matcher} {texts : List Text} {ahead found : Text}

/-- Of fixed texts with longer ones first, the longest one that starts the text ahead is found. -/
theorem match?_eq_some_iff (read : matcher.texts? = some texts)
    (sorted : texts.Pairwise fun first second => second.byteLength ≤ first.byteLength) :
    matcher.match? ahead = some found ↔ Text.Longest texts ahead found := by
  rw [match?_eq_filter read, Option.filter_eq_some_iff]
  constructor
  · rintro ⟨first, nonempty⟩
    have within : found <+: ahead := by simpa using List.find?_some first
    exact ⟨List.mem_of_find?_eq_some first, within, by simpa using nonempty,
      fun other => Text.longest_of_find? sorted first⟩
  · rintro ⟨member, within, nonempty, longest⟩
    refine ⟨?_, by simpa using nonempty⟩
    obtain ⟨first, isFirst, memberToo, withinToo⟩ := Text.exists_find? member within
    have least := longest first memberToo withinToo
    have most := Text.longest_of_find? sorted isFirst member within
    rw [isFirst, Text.eq_of_byteLength withinToo within (Nat.le_antisymm least most)]

/-- Of fixed texts, nothing is found exactly if at most the empty one starts the text ahead. -/
theorem match?_eq_none_iff (read : matcher.texts? = some texts)
    (sorted : texts.Pairwise fun first second => second.byteLength ≤ first.byteLength) :
    matcher.match? ahead = none ↔ ∀ text ∈ texts, text <+: ahead → text = [] := by
  constructor
  · intro nothing text member within
    obtain ⟨first, isFirst, _, _⟩ := Text.exists_find? member within
    rw [match?_eq_filter read, isFirst] at nothing
    obtain rfl : first = [] := by simpa using nothing
    have shorter := Text.longest_of_find? sorted isFirst member within
    simpa using shorter
  · intro empty
    cases outcome : matcher.match? ahead with
    | none => rfl
    | some found =>
        have longest := (match?_eq_some_iff read sorted).1 outcome
        exact absurd (empty found longest.member longest.within) longest.nonempty

end Matcher

namespace Marker

variable {marker : Marker} {texts : List Text}

/-- A matcher of texts with longer ones first finds the longest. It does not matter whether the
empty text is one of them. -/
theorem findsLongest_of_texts? {matcher : Matcher} {sorted : List Text}
    (read : matcher.texts? = some sorted)
    (order : sorted.Pairwise fun first second => second.byteLength ≤ first.byteLength)
    (same : ∀ text ≠ [], text ∈ sorted ↔ text ∈ texts) : matcher.FindsLongest texts := by
  intro before ahead
  have here : matcher.matchAtOffset? (before ++ ahead) before.byteLength =
      matcher.match? ahead := by
    rw [Matcher.matchAtOffset?, Matcher.matchAt?, Text.dropBytes?_append, Option.bind_some]
  rw [here, Matcher.match?_eq_none_iff read order]
  refine ⟨fun found => ?_, forall_congr' fun text => ?_⟩
  · rw [Matcher.match?_eq_some_iff read order]
    exact ⟨fun longest => longest.congr same,
      fun longest => longest.congr fun text nonempty => (same text nonempty).symm⟩
  · by_cases empty : text = []
    · simp [empty]
    · rw [same text empty]

/-- What is made of a marker that writes escaped texts chooses between these texts. -/
theorem matcher_of_body {sorted : List Text} (some : sorted ≠ [])
    (writes : marker.body = Text.join ['|'] (sorted.map escape)) :
    ((∃ matcher, marker.matcher = .ok matcher) ↔
      (sorted.map fun text => max 1 text.byteLength + 1).sum ≤ Pattern.sizeLimit) ∧
    ∀ matcher, marker.matcher = .ok matcher → matcher.texts? = Option.some sorted := by
  have size : (Pattern.anchoredChoice sorted).size = _ := Pattern.size_choice some
  rw [matcher, anchoredPattern, writes, (Pattern.read_texts some).2, size]
  split
  · rename_i small
    refine ⟨iff_of_true ⟨_, rfl⟩ small, fun matcher made => ?_⟩
    rw [← Except.ok.inj made]
    change (Searcher.ofPattern (Pattern.anchoredChoice sorted)).body?.bind Pattern.texts? = _
    rw [Searcher.ofPattern, if_pos (Pattern.isDirect_anchoredChoice sorted)]
    exact Pattern.texts?_choice some
  · rename_i large
    have refused (matcher : Matcher) :
        (.error .tooLarge : Except Pattern.Flaw Matcher) ≠ .ok matcher := by simp
    exact ⟨iff_of_false (not_exists.2 refused) large,
      fun matcher made => absurd made (refused matcher)⟩

/-- A marker of fixed texts finds the longest of them that stands at the cursor. -/
theorem finds_longest :
    (∀ text, (literal text).FindsLongest [text]) ∧ ∀ texts, (anyOf texts).FindsLongest texts := by
  constructor
  · intro text
    obtain ⟨small, made⟩ := matcher_of_body (List.cons_ne_nil text []) (body_literal text)
    exact ⟨small, fun matcher ready => findsLongest_of_texts? (made matcher ready)
      (List.pairwise_singleton _ text) fun _ _ => Iff.rfl⟩
  · intro texts
    obtain ⟨small, made⟩ := matcher_of_body (branches_ne_nil texts) (body_anyOf texts)
    refine ⟨small.trans ?_, fun matcher ready => findsLongest_of_texts? (made matcher ready)
      (branches_pairwise texts) fun text => mem_branches⟩
    cases texts with
    | nil => decide
    | cons first rest =>
        have same := ((longestFirst_perm (first :: rest)).map
          fun text => max 1 text.byteLength + 1).sum_nat
        exact Eq.to_iff (congrArg (· ≤ Pattern.sizeLimit) same)

/-- Behind two characters, one of which takes two bytes, the longest of four texts is found; they
are made of operators and begin like the group behind the anchor. -/
theorem finds_longest_opening : ∃ matcher,
    (anyOf [['('], [], ['(', '?', ':'], ['(', '?']]).matcher = .ok matcher ∧
      matcher.matchAtOffset? ['é', ' ', '(', '?', ':', 'b'] 3 = some ['(', '?', ':'] := by
  obtain ⟨ready, finds⟩ := finds_longest.2 [['('], [], ['(', '?', ':'], ['(', '?']]
  obtain ⟨matcher, made⟩ := ready.2 (by decide)
  refine ⟨matcher, made, ((finds matcher made ['é', ' '] ['(', '?', ':', 'b']).1 _).2 ?_⟩
  exact ⟨by decide, by decide, by decide, by decide⟩

end Marker

end Parlance
