import Parlance.Proofs.Arithmetic.Backtracking
import Parlance.Proofs.Arithmetic.Origins
import Parlance.Proofs.Grammar.Representation
import Parlance.Proofs.Tree.Spacing

/-!
# Blanks in the arithmetic language

No marker of the arithmetic language starts with a blank. Only strings have blanks in them, and a
string is over at its closing quote, whatever stands behind it. So blanks between tokens are skipped,
and they change no token. Nor does a closing parenthesis behind a token change it.
-/

namespace Parlance

namespace Pattern

variable {quote char : Char} {pattern : Pattern} {text : Text}

/-- Whether the pattern takes anything up to the closing quote in which backslashes take along the
characters behind them. -/
def isClosedBy (quote : Char) : Pattern → Bool
  | seq (chars _)
      (seq (rounds (alt (chars (.compl special)) (seq (chars slash) (chars _))) 0 none true)
        (chars closing)) =>
      special.contains quote && special.contains '\\' && slash.singles? == some ['\\'] &&
        closing.singles? == some [quote] && quote != '\\'
  | _ => false

/-- A quoted text is taken whatever stands behind it. -/
theorem takes_of_isClosedBy (closed : pattern.isClosedBy quote = true) (spells : pattern.Spells text)
    (rest : Text) : pattern.Takes text rest := by
  unfold isClosedBy at closed
  split at closed
  · rename_i opening special slash any closing
    simp only [Bool.and_eq_true, beq_iff_eq, bne_iff_ne] at closed
    obtain ⟨⟨⟨⟨specialQuote, specialSlash⟩, isSlash⟩, isClosing⟩, apart⟩ := closed
    obtain ⟨_, _, rfl, ⟨first, opens, rfl⟩, _, _, rfl, ⟨parts, rfl, each, _⟩, last, closes, rfl⟩ :=
      spells
    obtain rfl : last = quote := List.mem_singleton.1 (CharSet.mem_of_singles? isClosing closes)
    have noSlash : slash.contains last = false := by
      rw [Bool.eq_false_iff]
      exact fun member => apart (List.mem_singleton.1 (CharSet.mem_of_singles? isSlash member))
    have quoted : ∀ part ∈ parts, IsQuotedPart special slash any part := by
      intro part member
      rcases each part member with
        ⟨char, plain, rfl⟩ | ⟨_, _, rfl, ⟨back, slashes, rfl⟩, char, within, rfl⟩
      · exact .inl ⟨char, by simpa [CharSet.contains] using plain, rfl⟩
      · obtain rfl := List.mem_singleton.1 (CharSet.mem_of_singles? isSlash slashes)
        exact .inr ⟨_, char, specialSlash, slashes, within, rfl⟩
    exact takes_seq (takes_chars opens _)
      (takes_seq (takes_quotedParts quoted specialQuote noSlash rest) (takes_chars closes rest))
  · cases closed

/-- What is quoted by one character starts with no other. -/
theorem stops_of_isQuotedBy (quoted : pattern.isQuotedBy quote = true) (apart : char ≠ quote)
    (rest : Text) : pattern.Stops (char :: rest) := by
  unfold isQuotedBy at quoted
  split at quoted
  · rename_i opening body closing
    simp only [Bool.and_eq_true, beq_iff_eq] at quoted
    refine stops_seq (stops_chars ?_)
    rintro _ ⟨⟩
    rw [Bool.eq_false_iff]
    exact fun member => apart (List.mem_singleton.1 (CharSet.mem_of_singles? quoted.1 member))
  · cases quoted

end Pattern

namespace Arithmetic

variable {matcher other : Matcher} {pattern : Pattern} {char : Char} {text former latter rest : Text}

/-! ### Markers -/

/-- The characters around strings. -/
def quotes : List Char := ['"', '\'']

/-- The closing parenthesis and all blanks. -/
def separators : List Char := ')' :: Unicode.blanks

theorem blanks_separate : Unicode.blanks ⊆ separators := List.subset_cons_self _ _

/-- Whether the pattern takes texts in double or in single quotes. -/
def takesQuoted : Pattern → Bool
  | .alt double single =>
      double.isQuotedBy '"' && double.isClosedBy '"' && single.isQuotedBy '\'' &&
        single.isClosedBy '\''
  | _ => false

/-- Whether the pattern looks past no separator and takes nothing that is empty or quoted. -/
def takesWords (pattern : Pattern) : Bool :=
  pattern.avoids separators && !pattern.nullable && quotes.all (!pattern.canStart ·)

/-- A string is over at its closing quote. -/
theorem takes_of_takesQuoted (quoted : takesQuoted pattern = true) (spells : pattern.Spells text)
    (rest : Text) : pattern.Takes text rest := by
  unfold takesQuoted at quoted
  split at quoted
  · rename_i double single
    simp only [Bool.and_eq_true] at quoted
    obtain ⟨⟨⟨quotedDouble, closedDouble⟩, quotedSingle⟩, closedSingle⟩ := quoted
    rcases spells with spells | spells
    · exact Pattern.takes_alt_left (Pattern.takes_of_isClosedBy closedDouble spells rest)
    · refine Pattern.takes_alt_right ?_ (Pattern.takes_of_isClosedBy closedSingle spells rest)
      obtain ⟨middle, rfl⟩ := Pattern.eq_quoted_of_spells quotedSingle spells
      exact Pattern.stops_of_isQuotedBy quotedDouble (by decide) _
  · cases quoted

theorem stops_of_takesQuoted (quoted : takesQuoted pattern = true) (apart : char ∉ quotes)
    (rest : Text) : pattern.Stops (char :: rest) := by
  unfold takesQuoted at quoted
  split at quoted
  · rename_i double single
    simp only [Bool.and_eq_true] at quoted
    obtain ⟨⟨⟨quotedDouble, _⟩, quotedSingle⟩, _⟩ := quoted
    simp only [quotes, List.mem_cons, List.not_mem_nil, or_false, not_or] at apart
    exact Pattern.stops_alt (Pattern.stops_of_isQuotedBy quotedDouble apart.1 rest)
      (Pattern.stops_of_isQuotedBy quotedSingle apart.2 rest)
  · cases quoted

/-- The number of the term for strings. -/
def stringId : TermId := 9

theorem markers_shaped :
    shapeAt stringId takesQuoted = true ∧
    (candidateLists.all fun ids => ids.all fun id => id == stringId || shapeAt id takesWords) = true ∧
    (grammar.terms.all fun term => term.stop?.all fun stop =>
      stop.texts? == some [[')']] || stop.searcher.body?.any takesWords) = true := by
  decide +kernel

/-- A marker takes words, unless it is the one of strings or the closing parenthesis. -/
theorem isMarker_cases (isMarker : grammar.IsMarker matcher) :
    (∃ term, grammar.term? stringId = some term ∧ term.start = matcher) ∨
      matcher.texts? = some [[')']] ∨
      ∃ body, matcher.searcher.body? = some body ∧ takesWords body = true := by
  obtain ⟨_, starts, stops⟩ := markers_shaped
  rcases isMarker with ⟨candidates, list, id, member, term, named, rfl⟩ | ⟨term, member, ends⟩
  · have here := List.all_eq_true.1 starts candidates (mem_candidateLists list)
    have here := List.all_eq_true.1 here id member
    rcases Bool.or_eq_true_iff.1 here with isString | shaped
    · obtain rfl := eq_of_beq isString
      exact .inl ⟨term, named, rfl⟩
    · obtain ⟨same, body, namedToo, shape, words⟩ := exists_shape shaped
      cases named.symm.trans namedToo
      exact .inr (.inr ⟨body, shape, words⟩)
  · have here := List.all_eq_true.1 stops term member
    rw [ends, Option.all_some, Bool.or_eq_true, beq_iff_eq, Option.any_eq_true] at here
    exact .inr here

theorem exists_takesQuoted {term : Term} (named : grammar.term? stringId = some term) :
    ∃ body, term.start.searcher.body? = some body ∧ takesQuoted body = true := by
  obtain ⟨same, body, namedToo, shape, quoted⟩ := exists_shape markers_shaped.1
  cases named.symm.trans namedToo
  exact ⟨body, shape, quoted⟩

/-- A marker that takes words starts with no quote. -/
theorem stops_of_takesWords (words : takesWords pattern = true) (quote : char ∈ quotes)
    (rest : Text) : pattern.Stops (char :: rest) := by
  simp only [takesWords, Bool.and_eq_true, Bool.not_eq_true', List.all_eq_true] at words
  obtain ⟨⟨_, something⟩, apart⟩ := words
  exact Pattern.stops_of_canStart (apart char quote) something rest

/-- What the marker of the closing parenthesis finds depends on the first character alone. -/
theorem match?_of_closes (closes : matcher.texts? = some [[')']]) (char : Char) (rest : Text) :
    matcher.match? (char :: rest) = if char = ')' then some [')'] else none := by
  rw [Matcher.match?_of_texts? closes (by simp)]
  by_cases same : char = ')'
  · simp [same]
  · simp [same, Ne.symm same]

/-- No marker starts with a blank. -/
theorem match?_of_isBlank (isMarker : grammar.IsMarker matcher)
    (blank : Unicode.isBlank char = true) (rest : Text) : matcher.match? (char :: rest) = none := by
  rcases isMarker_cases isMarker with ⟨term, named, rfl⟩ | closes | ⟨body, shape, words⟩
  · obtain ⟨body, shape, quoted⟩ := exists_takesQuoted named
    refine Matcher.match?_of_stops shape (stops_of_takesQuoted quoted ?_ rest)
    intro member
    have visible : (quotes.all (!Unicode.isBlank ·)) = true := by decide
    have here := List.all_eq_true.1 visible char member
    rw [blank] at here
    cases here
  · rw [match?_of_closes closes, if_neg]
    rintro rfl
    exact absurd blank (by decide)
  · simp only [takesWords, Bool.and_eq_true, Bool.not_eq_true'] at words
    obtain ⟨⟨avoids, something⟩, _⟩ := words
    have never := Pattern.canStart_of_avoids avoids (blanks_separate (Unicode.mem_blanks blank))
    exact Matcher.match?_of_stops shape (Pattern.stops_of_canStart never something rest)

/-- What a marker finds, it finds in front of a text that breaks off as well. -/
theorem finds_of_breaksOff (isMarker : grammar.IsMarker matcher)
    (breaks : former.BreaksOff separators latter)
    (found : matcher.match? (text ++ former) = some text) :
    matcher.match? (text ++ latter) = some text := by
  rcases isMarker_cases isMarker with ⟨term, named, rfl⟩ | closes | ⟨body, shape, words⟩
  · obtain ⟨body, shape, quoted⟩ := exists_takesQuoted named
    have takes := takes_of_takesQuoted quoted (Matcher.spells_of_match? shape found) latter
    exact Matcher.match?_of_takes shape takes (Matcher.match?_ne_nil found)
  · obtain ⟨char, others, rfl⟩ := List.exists_cons_of_ne_nil (Matcher.match?_ne_nil found)
    rw [List.cons_append, match?_of_closes closes] at found ⊢
    exact found
  · simp only [takesWords, Bool.and_eq_true] at words
    exact Matcher.match?_of_breaksOff shape words.1.1 breaks found

/-- Where one marker is found and another one is not, the latter is not found in front of a text that
breaks off either. -/
theorem misses_of_breaksOff (isMarker : grammar.IsMarker matcher) (isMarkerToo : grammar.IsMarker other)
    (breaks : former.BreaksOff separators latter) (found : other.match? (text ++ former) = some text)
    (missing : matcher.match? (text ++ former) = none) : matcher.match? (text ++ latter) = none := by
  obtain ⟨char, others, rfl⟩ := List.exists_cons_of_ne_nil (Matcher.match?_ne_nil found)
  rcases isMarker_cases isMarker with ⟨term, named, rfl⟩ | closes | ⟨body, shape, words⟩
  · obtain ⟨body, shape, quoted⟩ := exists_takesQuoted named
    -- A marker other than that of strings has found something, so there is no quote.
    refine Matcher.match?_of_stops shape (stops_of_takesQuoted quoted ?_ (others ++ latter))
    intro quote
    rcases isMarker_cases isMarkerToo with
      ⟨same, namedToo, rfl⟩ | closesToo | ⟨bodyToo, shapeToo, words⟩
    · cases named.symm.trans namedToo
      rw [found] at missing
      cases missing
    · rw [List.cons_append, match?_of_closes closesToo, if_neg] at found
      · cases found
      · rintro rfl
        exact absurd quote (by decide)
    · have stops := stops_of_takesWords words quote (others ++ former)
      rw [List.cons_append, Matcher.match?_of_stops shapeToo stops] at found
      cases found
  · rw [List.cons_append, match?_of_closes closes] at missing ⊢
    exact missing
  · simp only [takesWords, Bool.and_eq_true, Bool.not_eq_true'] at words
    exact Matcher.match?_eq_none_of_breaksOff shape words.1.2 words.1.1 breaks missing

/-! ### The term between tokens -/

/-- The pattern between tokens takes blanks, as many as there are. -/
theorem read_whitespacePattern : Pattern.read (Marker.anchor whitespacePattern) =
    .ok (.seq (.assertion .textStart)
      (.rounds (.chars (.named .blank)) 1 none true)) := by
  rfl

/-- The term between tokens is made from that pattern. -/
theorem exists_whitespace : ∃ term, grammar.aether.bind grammar.term? = some term ∧
    term.body = .token ∧
    term.start.searcher.body? = some (.rounds (.chars (.named .blank)) 1 none true) := by
  rw [grammar_outlined.2.2, Option.bind_some]
  obtain ⟨term, named, outlined⟩ : ∃ term, grammar.term? 11 = some term ∧
      outlineOf term = ⟨"whitespace", none, none, [], none, false⟩ := exists_term rfl
  simp only [outlineOf, Outline.mk.injEq, Option.map_eq_none_iff] at outlined
  have shape := body_of_stop? outlined.2.2.1
  obtain ⟨definition, defined, renders⟩ := (Spec.resolved_of_resolve resolve_spec).renders named
  rw [outlined.1] at defined
  cases defined.symm.trans (rfl : spec.definitions.get? "whitespace" =
    some (.term (.token (.pattern whitespacePattern))))
  obtain ⟨_, _, marker, isMarker, made⟩ := renders.token (by rw [Term.isToken, shape])
  cases isMarker
  rw [Marker.matcher, Marker.anchoredPattern, Marker.body, read_whitespacePattern] at made
  refine ⟨term, named, shape, ?_⟩
  rw [← Except.ok.inj made]
  rfl

theorem skipsBlanks : grammar.SkipsBlanks separators where
  blanks := blanks_separate
  aether := by
    obtain ⟨term, named, shape, body⟩ := exists_whitespace
    refine ⟨term, named, shape, ?_, ?_⟩
    · intro ahead marker found char member
      obtain ⟨parts, rfl, each, _⟩ := Matcher.spells_of_match? body found
      obtain ⟨part, among, inside⟩ := List.mem_flatten.1 member
      obtain ⟨only, blank, rfl⟩ := each part among
      rw [List.mem_singleton.1 inside]
      exact blank
    · intro gap rest some blank visible
      exact Matcher.match?_of_takes body (Pattern.takes_chars_plus blank some visible) some
  visible matcher isMarker char blank rest := match?_of_isBlank isMarker blank rest
  finds matcher isMarker text former latter := finds_of_breaksOff isMarker
  misses matcher other isMarker isMarkerToo text former latter :=
    misses_of_breaksOff isMarker isMarkerToo

/-- Blanks that are put in between the tokens of a source change neither its tree nor what it
compiles to, except for places. -/
theorem spacing_irrelevant {backtracks : Bool} {source text : Text} {tree : Node}
    (parsed : grammar.parse ⟨backtracks, false⟩ source = .ok tree) (spaced : tree.SpacedOut text) :
    (∃ other, grammar.parse ⟨backtracks, false⟩ text = .ok other ∧ other.bare = tree.bare) ∧
      EndAlike Expr.Alike (compile source) (compile text) := by
  have anyhow : ∀ text, grammar.parse ⟨backtracks, false⟩ text = grammar.parse .plain text := by
    intro text
    cases backtracks with
    | false => rfl
    | true => exact neverForks.parse_eq false text
  rw [anyhow] at parsed
  obtain ⟨other, parsedToo, same⟩ := skipsBlanks.parse_spaced grammar_findsPrefixes parsed spaced
  refine ⟨⟨other, (anyhow text).trans parsedToo, same⟩, ?_⟩
  rw [compile, compile, parsed, parsedToo]
  exact compileInside_alike tree other same.symm

/-- Blanks of all kinds around the tokens of a call, its brackets and a string with a blank. -/
theorem spacing_irrelevant_call : ∃ tree,
    grammar.parse .plain "f()(a)-- -'b c'".toList = .ok tree ∧
      tree.SpacedOut "\u2003f\t( \n)( a\u00a0) -- \r\n  - 'b c' ".toList ∧
      (∃ other, grammar.parse .plain "\u2003f\t( \n)( a\u00a0) -- \r\n  - 'b c' ".toList = .ok other ∧
        other.bare = tree.bare) ∧
      EndAlike Expr.Alike (compile "f()(a)-- -'b c'".toList)
        (compile "\u2003f\t( \n)( a\u00a0) -- \r\n  - 'b c' ".toList) := by
  have checked : ((grammar.parse .plain "f()(a)-- -'b c'".toList).toOption.any fun tree =>
      decide (tree.SpacedOut "\u2003f\t( \n)( a\u00a0) -- \r\n  - 'b c' ".toList)) = true := by
    decide +kernel
  obtain ⟨tree, parsed, spaced⟩ := (Option.any_eq_true ..).1 checked
  rw [toOption_eq_some_iff] at parsed
  rw [decide_eq_true_eq] at spaced
  obtain ⟨same, alike⟩ := spacing_irrelevant parsed spaced
  exact ⟨tree, parsed, spaced, same, alike⟩

end Arithmetic

end Parlance
