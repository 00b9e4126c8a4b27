import Parlance.Proofs.Tree.Spacing

/-!
# Whole texts inside brackets

What fills the root with a whole text also fills a group with that text, in front of an end marker
that is a separator: the tokens are over there, no candidate starts with it, and nothing of it is
skipped.
-/

namespace Parlance.Grammar.SkipsBlanks

variable {grammar : Grammar} {separators : List Char} {stop : Matcher} {char : Char} {rest : Text}

/-- What fills the root up to the end of the text fills a group up to its end marker. -/
theorem fills_enclosed (skipsBlanks : grammar.SkipsBlanks separators)
    (isStop : grammar.IsStop (some stop)) (separates : char ∈ separators)
    (ends : stop.match? (char :: rest) = some [char])
    (idle : ∀ candidates, grammar.IsList candidates → grammar.NoneStarts candidates (char :: rest))
    {candidates : List TermId} {before ahead trailing : Text} {children : List Node} :
    grammar.Fills false none candidates before ahead children trailing [] [] →
    grammar.IsList candidates → ∀ place : Text,
    ∃ others, grammar.Fills false (some stop) candidates place (ahead ++ char :: rest) others trailing
      [char] rest ∧ Node.bareAll others = Node.bareAll children
  | .child skips first reads fills, list, place => by
      rename_i leading _ term node behind children
      have breaks : behind.BreaksOff separators (behind ++ char :: rest) := by
        simpa using (Text.BreaksOff.separator separates [] rest).append behind
      obtain ⟨other, readsToo, same, alike⟩ := skipsBlanks.reads_spaced reads first.mem_terms
        (first.isMarker list) node.spacedOut_span breaks (place ++ leading)
      have firstToo := skipsBlanks.firstToStart_of_findsAlike list first alike
      have skipsToo := skipsBlanks.skips_of_isBlank list isStop (skipsBlanks.isBlank_of_skips skips)
        (skipsBlanks.startsVisibly (first.isMarker list) alike) place
      obtain ⟨others, fillsToo, sameLater⟩ := skipsBlanks.fills_enclosed isStop separates ends idle
        fills (list.after first.mem_terms) (place ++ leading ++ other.text)
      have split : ahead ++ char :: rest = leading ++ (node.span ++ (behind ++ char :: rest)) := by
        rw [skips.text_eq, reads.text_eq, Node.text_eq, reads.bare]
        simp
      rw [split]
      refine ⟨_, .child skipsToo firstToo readsToo fillsToo, ?_⟩
      rw [Node.bareAll, Node.bareAll, Node.bare_withLeading, Node.bare_withLeading, same, sameLater]
  | .ends skips, list, place => by
      have alike : FindsAlike separators stop (char :: rest) (char :: rest) :=
        ⟨[char], rest, rest, rfl, rfl, .refl rest, ends⟩
      have skipsToo := skipsBlanks.skips_of_isBlank list isStop (skipsBlanks.isBlank_of_skips skips)
        (skipsBlanks.startsVisibly isStop.isMarker alike) place
      refine ⟨[], ?_, rfl⟩
      rw [skips.text_eq, List.append_nil]
      exact .closes skipsToo (idle _ list) ends

end Parlance.Grammar.SkipsBlanks
