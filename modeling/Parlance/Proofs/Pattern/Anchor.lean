import Parlance.Grammar.Basic
import Parlance.Proofs.Pattern.Reading

/-!
# Anchored matching

A matcher is trusted to find only what stands at the cursor. `Matcher.FindsPrefixes` says so for one
matcher and `Grammar.FindsPrefixes` for all markers of a grammar. A pattern that is asked to start
at the start of the text is such a matcher, so `Marker.findsPrefixes` covers every marker of fixed
texts and every written pattern that leaves the group around it open.
-/

namespace Parlance

/-- What lies before a text at the end of another one is a leading part of the latter. -/
theorem Text.upTo_isPrefix (text rest : Text) : text.upTo rest <+: text :=
  List.take_prefix _ _

namespace Searcher

/-- Whether the searcher is tried at the start of a text only. -/
def isAnchored : Searcher → Bool
  | direct pattern => pattern.anchored
  | threaded anchored _ => anchored

@[simp] theorem isAnchored_ofPattern (pattern : Pattern) :
    (ofPattern pattern).isAnchored = pattern.anchored := by
  unfold ofPattern
  split <;> rfl

/-- An anchored searcher finds only leading parts of the text. -/
theorem find?_isPrefix {searcher : Searcher} (anchored : searcher.isAnchored = true)
    {text found : Text} (finds : searcher.find? text = some found) : found <+: text := by
  cases searcher with
  | direct pattern =>
      have atStart : pattern.anchored = true := anchored
      simp only [find?, atStart, if_true, Option.map_eq_some_iff] at finds
      obtain ⟨rest, _, rfl⟩ := finds
      exact text.upTo_isPrefix rest
  | threaded anchoredHere program =>
      have atStart : anchoredHere = true := anchored
      simp only [find?, atStart, if_true, Option.map_eq_some_iff] at finds
      obtain ⟨rest, _, rfl⟩ := finds
      exact text.upTo_isPrefix rest

/-- What a direct pattern finds stands somewhere in the text. -/
theorem scanDirect_isInfix {pattern : Pattern} {before : Option Char} {ahead found : Text}
    (finds : scanDirect pattern before ahead = some found) : found <:+: ahead := by
  induction ahead generalizing before with
  | nil =>
      rw [scanDirect] at finds
      cases here : pattern.walkFrom? ⟨before, []⟩ with
      | some rest =>
          rw [here] at finds
          cases finds
          exact (Text.upTo_isPrefix [] rest).isInfix
      | none =>
          rw [here] at finds
          cases finds
  | cons char ahead ih =>
      rw [scanDirect] at finds
      cases here : pattern.walkFrom? ⟨before, char :: ahead⟩ with
      | some rest =>
          rw [here] at finds
          cases finds
          exact (Text.upTo_isPrefix (char :: ahead) rest).isInfix
      | none =>
          rw [here] at finds
          exact List.infix_cons (ih finds)

/-- What a program finds stands somewhere in the text. -/
theorem scanProgram_isInfix {program : Program} {bound : Nat} {visited : Program.Visited}
    {position : Nat} {before : Option Char} {ahead found : Text}
    (finds : scanProgram program bound visited position before ahead = some found) :
    found <:+: ahead := by
  induction ahead generalizing visited position before with
  | nil =>
      rw [scanProgram] at finds
      split at finds
      · cases finds
        exact (Text.upTo_isPrefix [] _).isInfix
      · cases finds
  | cons char ahead ih =>
      rw [scanProgram] at finds
      split at finds
      · cases finds
        exact (Text.upTo_isPrefix (char :: ahead) _).isInfix
      · exact List.infix_cons (ih finds)

/-- A searcher finds parts of the text only. -/
theorem find?_isInfix {searcher : Searcher} {text found : Text}
    (finds : searcher.find? text = some found) : found <:+: text := by
  cases anchored : searcher.isAnchored with
  | true => exact (find?_isPrefix anchored finds).isInfix
  | false =>
      cases searcher with
      | direct pattern =>
          have anywhere : pattern.anchored = false := anchored
          rw [find?, anywhere, if_neg Bool.false_ne_true] at finds
          exact scanDirect_isInfix finds
      | threaded anchoredHere program =>
          have anywhere : anchoredHere = false := anchored
          rw [find?, anywhere, if_neg Bool.false_ne_true] at finds
          exact scanProgram_isInfix finds

end Searcher

namespace Matcher

/-- Whatever the matcher finds stands at the start of the text ahead. -/
def FindsPrefixes (matcher : Matcher) : Prop :=
  ∀ ahead found, matcher.match? ahead = some found → found <+: ahead

/-- A match is never empty. -/
theorem match?_ne_nil {matcher : Matcher} {ahead found : Text}
    (finds : matcher.match? ahead = some found) : found ≠ [] := by
  have notEmpty := (Option.filter_eq_some_iff.1 finds).2
  simpa using notEmpty

/-- A matcher with an anchored searcher finds prefixes. -/
theorem findsPrefixes_of_isAnchored {matcher : Matcher}
    (anchored : matcher.searcher.isAnchored = true) : matcher.FindsPrefixes := by
  intro ahead found finds
  exact Searcher.find?_isPrefix anchored (Option.filter_eq_some_iff.1 finds).1

/-- A match splits the text ahead into itself and what follows. -/
theorem FindsPrefixes.split {matcher : Matcher} (faithful : matcher.FindsPrefixes)
    {ahead found : Text} (finds : matcher.match? ahead = some found) :
    ∃ rest, ahead = found ++ rest := by
  obtain ⟨rest, whole⟩ := faithful _ _ finds
  exact ⟨rest, whole.symm⟩

end Matcher

namespace Pattern

/-- A written pattern that leaves its group open stays behind the anchor. -/
theorem anchored_of_leavesGroupOpen {source : Text} {pattern : Pattern}
    (opened : LeavesGroupOpen source) (reads : read (Marker.anchor source) = .ok pattern) :
    pattern.anchored = true := by
  obtain ⟨piece, flags, names, inside⟩ := opened
  rw [eq_pattern_of_read (readBranches_anchor inside) reads]
  rfl

end Pattern

namespace Marker

/-- Whether the marker stays in the group that it is put into. Fixed texts always do. -/
def LeavesGroupOpen : Marker → Prop
  | literal _ => True
  | anyOf _ => True
  | pattern source => Pattern.LeavesGroupOpen source

/-- Whether every way through the marker, read with the anchor in front of it, begins with the
anchor or with another condition that asks for the start. -/
def isAnchored (marker : Marker) : Bool :=
  match marker.anchoredPattern with
  | .ok made => made.anchored
  | .error _ => true

/-- What a marker writes that stays in its group leaves this group open. -/
theorem leavesGroupOpen_body {marker : Marker} (opened : marker.LeavesGroupOpen) :
    Pattern.LeavesGroupOpen marker.body := by
  cases marker with
  | literal text =>
      rw [body_literal]
      exact (Pattern.read_texts (List.cons_ne_nil text [])).1
  | anyOf texts =>
      rw [body_anyOf]
      exact (Pattern.read_texts (branches_ne_nil texts)).1
  | pattern source => exact opened

/-- A marker that stays in its group keeps the anchor in front. -/
theorem isAnchored_of_leavesGroupOpen {marker : Marker} (opened : marker.LeavesGroupOpen) :
    marker.isAnchored = true := by
  rw [isAnchored]
  split
  · rename_i made reads
    exact Pattern.anchored_of_leavesGroupOpen (leavesGroupOpen_body opened) reads
  · rfl

/-- The searcher of an anchored marker is tried at the start only. -/
theorem isAnchored_searcher {marker : Marker} {matcher : Matcher}
    (made : marker.matcher = .ok matcher) : matcher.searcher.isAnchored = marker.isAnchored := by
  rw [isAnchored]
  cases shape : marker.anchoredPattern with
  | error flaw =>
      rw [Marker.matcher, shape] at made
      cases made
  | ok pattern =>
      rw [Marker.matcher, shape] at made
      cases made
      exact Searcher.isAnchored_ofPattern pattern

/-- A marker that stays in its group is matched only where the cursor stands. -/
theorem findsPrefixes {marker : Marker} {matcher : Matcher} (opened : marker.LeavesGroupOpen)
    (made : marker.matcher = .ok matcher) : matcher.FindsPrefixes := by
  apply Matcher.findsPrefixes_of_isAnchored
  rw [isAnchored_searcher made]
  exact isAnchored_of_leavesGroupOpen opened

end Marker

namespace Grammar

/-- The start marker and the end marker of every term find only what stands at the cursor. -/
def FindsPrefixes (grammar : Grammar) : Prop :=
  ∀ term ∈ grammar.terms, term.start.FindsPrefixes ∧ ∀ stop ∈ term.stop?, stop.FindsPrefixes

/-- Whether all markers are searched for at the cursor only. -/
def isAnchored (grammar : Grammar) : Bool :=
  grammar.terms.all fun term =>
    term.start.searcher.isAnchored && term.stop?.all fun stop => stop.searcher.isAnchored

theorem findsPrefixes_of_isAnchored {grammar : Grammar} (anchored : grammar.isAnchored = true) :
    grammar.FindsPrefixes := by
  intro term member
  have both := List.all_eq_true.1 anchored term member
  rw [Bool.and_eq_true] at both
  refine ⟨Matcher.findsPrefixes_of_isAnchored both.1, ?_⟩
  intro stop found
  have stops := both.2
  rw [Option.mem_def.1 found] at stops
  exact Matcher.findsPrefixes_of_isAnchored stops

end Grammar

end Parlance
