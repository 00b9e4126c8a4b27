import Parlance.Arithmetic.Language
import Parlance.Proofs.Grammar.Resolution
import Parlance.Proofs.Pattern.Anchor
import Parlance.Tree.Parsing

/-!
# Matching at the cursor

What the matchers of a resolved grammar can find at an offset. A marker that is anchored is matched
at the cursor only. A written pattern that closes the group around it can leave the anchor to its
first branch; its other branches are then found anywhere ahead.
-/

namespace Parlance

/-- A matcher finds only parts of the text ahead of it that are not empty. If it is anchored, they
stand at the cursor. -/
theorem Matcher.matchAtOffset?_finds {matcher : Matcher} {text found : Text} {offset : Nat}
    (finds : matcher.matchAtOffset? text offset = some found) :
    found ≠ [] ∧ ∃ ahead, text.dropBytes? offset = some ahead ∧ found <:+: ahead ∧
      (matcher.searcher.isAnchored = true → found <+: ahead) := by
  obtain ⟨ahead, cut, finds⟩ := Option.bind_eq_some_iff.1 finds
  have searched := (Option.filter_eq_some_iff.1 finds).1
  refine ⟨match?_ne_nil finds, ahead, cut, Searcher.find?_isInfix searched, ?_⟩
  intro anchored
  exact Searcher.find?_isPrefix anchored searched

/-- Each marker of a description that resolves has its matcher in the grammar. What the matcher
finds at an offset is not empty, and is a part of the text ahead. It stands at the offset if the
marker is anchored, as all fixed texts are and all written patterns that stay in the group around
them. -/
theorem Spec.matches_at_cursor {spec : Spec} {grammar : Grammar}
    (resolved : spec.resolve = .ok grammar) {name : String} {definition : TermDefinition}
    (defined : spec.definitions.get? name = some (.term definition)) :
    ∃ term, grammar.termNamed? name = some term ∧
      List.Forall₂ (fun marker matcher =>
        marker.matcher = .ok matcher ∧ (marker.LeavesGroupOpen → marker.isAnchored = true) ∧
        ∀ text offset found, matcher.matchAtOffset? text offset = some found →
          found ≠ [] ∧ ∃ ahead, text.dropBytes? offset = some ahead ∧ found <:+: ahead ∧
            (marker.isAnchored = true → found <+: ahead))
        definition.markers term.matchers := by
  obtain ⟨term, named, makes⟩ := (makes_of_resolve resolved).2 name definition defined
  refine ⟨term, named, makes.matchers.imp ?_⟩
  intro marker matcher made
  refine ⟨made, Marker.isAnchored_of_leavesGroupOpen, ?_⟩
  intro text offset found finds
  rw [← Marker.isAnchored_searcher made]
  exact Matcher.matchAtOffset?_finds finds

theorem matches_at_cursor_number :
    ∃ term, Arithmetic.grammar.termNamed? "number" = some term ∧
      ∀ text offset found, term.start.matchAtOffset? text offset = some found →
        ∃ ahead, text.dropBytes? offset = some ahead ∧ found <+: ahead := by
  have defined : Arithmetic.spec.definitions.get? "number" = some (.term
      ((TermDefinition.token (.pattern Arithmetic.numberPattern)).followedBy ["operation"])) := by
    decide +kernel
  have anchored : (Marker.pattern Arithmetic.numberPattern).isAnchored = true := by decide +kernel
  obtain ⟨term, named, finds⟩ := Spec.matches_at_cursor Arithmetic.resolve_spec defined
  refine ⟨term, named, ?_⟩
  intro text offset found matched
  cases finds with
  | cons first _ =>
      obtain ⟨_, ahead, cut, _, atCursor⟩ := first.2.2 text offset found matched
      exact ⟨ahead, cut, atCursor anchored⟩

/-- A description of one token, whose pattern closes the group around it and opens another one. -/
def strayToken : Spec :=
  (Spec.rootedAt "root").phrase "root" ["token"]
    |>.term "token" (.token (.pattern "a)|(?:b".toList))

/-- Not every match stands at the cursor: the branch behind the closed group is found further on. -/
theorem not_matches_at_cursor :
    ¬∀ (spec : Spec) (grammar : Grammar), spec.resolve = .ok grammar → ∀ term ∈ grammar.terms,
      ∀ text offset found, term.start.matchAtOffset? text offset = some found →
        found ≠ [] ∧ ∃ ahead, text.dropBytes? offset = some ahead ∧ found <+: ahead := by
  intro claimed
  have finds : strayToken.resolve.toOption.bind (fun grammar => grammar.terms.head?.bind
      (·.start.matchAtOffset? "xb".toList 0)) = some "b".toList := by decide +kernel
  obtain ⟨grammar, resolved, finds⟩ := Option.bind_eq_some_iff.1 finds
  obtain ⟨term, first, finds⟩ := Option.bind_eq_some_iff.1 finds
  have resolves : strayToken.resolve = .ok grammar := by
    cases result : strayToken.resolve with
    | ok made =>
        rw [result] at resolved
        cases resolved
        rfl
    | error fault =>
        rw [result] at resolved
        cases resolved
  obtain ⟨_, ahead, cut, atCursor⟩ := claimed strayToken grammar resolves term
    (List.mem_of_head? first) "xb".toList 0 "b".toList finds
  rw [Text.dropBytes?_zero] at cut
  cases cut
  exact absurd atCursor (by decide +kernel)

end Parlance
