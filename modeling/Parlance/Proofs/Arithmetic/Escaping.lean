import Parlance.Proofs.Arithmetic.Token
import Parlance.Proofs.Grammar.Representation

/-!
# Escaped strings

The canonical text of a string puts backslashes in front of backslashes and then of double quotes.
Whatever the string is and whatever stands around that text, the pattern of strings takes exactly
the text, and reading it gives the string.
-/

namespace Parlance

/-- The text with a backslash in front of every occurrence of the character. -/
def guarded (char : Char) (text : Text) : Text :=
  text.flatMap fun other => if other = char then ['\\', other] else [other]

/-- Canonical string literals guard backslashes first, so the backslashes in front of quotes are
not guarded again. -/
theorem flatMap_escapedChar (text : Text) :
    text.flatMap escapedChar = guarded '"' (guarded '\\' text) := by
  rw [guarded, guarded, List.flatMap_assoc]
  apply List.flatMap_congr
  intro char _
  by_cases slash : char = '\\'
  · subst slash
    rfl
  · by_cases quote : char = '"'
    · subst quote
      rfl
    · simp [escapedChar, slash, quote]

namespace Arithmetic

variable {candidates : List TermId} {ahead : Text} {term : Term}

/-- A candidate that starts is the one of its name. -/
theorem termNamed?_of_firstToStart (first : grammar.FirstToStart candidates ahead term) :
    grammar.termNamed? term.name = some term := by
  obtain ⟨_, id, _, _, _, found, _⟩ := first
  have numbered : grammar.idOf? term.name = some id :=
    (Spec.resolved_of_resolve resolve_spec).idOf?_eq_some_iff.2 ⟨term, found, rfl⟩
  rw [Grammar.termNamed?, numbered, Option.bind_some, found]

/-- The string term matches by the pattern of strings. -/
theorem matcher_stringPattern (first : grammar.FirstToStart candidates ahead term)
    (named : term.name = "string") (isToken : term.body = .token) :
    (Marker.pattern stringPattern).matcher = .ok term.start := by
  obtain ⟨_, id, _, _, _, found, _⟩ := first
  obtain ⟨definition, defined, renders⟩ := (Spec.resolved_of_resolve resolve_spec).renders found
  rw [named] at defined
  cases defined.symm.trans (rfl : spec.definitions.get? "string" =
    some (.term ((TermDefinition.token (.pattern stringPattern)).followedBy ["operation"])))
  obtain ⟨_, _, marker, isMarker, made⟩ := renders.token (by rw [Term.isToken, isToken])
  cases isMarker
  exact made

/-- The canonical text of a string is what the string term takes from it and anything behind it,
where a value is due and wherever it stands. Reading it gives the string. -/
theorem string_literals_read_back (origin : Origin) (text : String) :
    let written := (Expr.literal origin (.string text)).canonical
    written = '"' :: guarded '"' (guarded '\\' text.toList) ++ ['"'] ∧
      readString? written = some text.toList ∧
      ∃ term, grammar.termNamed? "string" = some term ∧
        (Marker.pattern stringPattern).matcher = .ok term.start ∧
        ∀ rest, grammar.FirstToStart grammar.root (written ++ rest) term ∧
          ∀ before, term.start.matchAtOffset? (before ++ (written ++ rest)) before.byteLength =
            some written := by
  intro written
  have shown : written = '"' :: text.toList.flatMap escapedChar ++ ['"'] := rfl
  have takes : ∀ rest, ∃ term, grammar.FirstToStart grammar.root (written ++ rest) term ∧
      grammar.termNamed? "string" = some term ∧
      (Marker.pattern stringPattern).matcher = .ok term.start ∧
      term.start.match? (written ++ rest) = some written := by
    intro rest
    obtain ⟨term, first, named, isToken, _, found⟩ := takesToken_string text.toList rest
    refine ⟨term, ?_, ?_, matcher_stringPattern first named isToken, found⟩
    · rw [grammar_outlined.2.1]
      exact first
    · rw [← named]
      exact termNamed?_of_firstToStart first
  refine ⟨by rw [shown, flatMap_escapedChar], readString?_quoted text.toList, ?_⟩
  obtain ⟨term, _, named, made, _⟩ := takes []
  refine ⟨term, named, made, fun rest => ?_⟩
  obtain ⟨other, first, namedToo, _, found⟩ := takes rest
  obtain rfl : term = other := Option.some.inj (named.symm.trans namedToo)
  refine ⟨first, fun before => ?_⟩
  rw [Matcher.matchAtOffset?, Matcher.matchAt?, Text.dropBytes?_append, Option.bind_some, found]

end Arithmetic

end Parlance
