import Parlance.Arithmetic.Literal
import Parlance.Expr.Canonical
import Parlance.Proofs.Arithmetic.Derivation
import Parlance.Proofs.Pattern.Taking
import Parlance.Proofs.Tree.Nodes

/-!
# String tokens

The marker of strings matches only texts that start and end with the same quote, so every string
token of a parse tree can be read. Canonical string literals are read as the text that they show.
-/

namespace Parlance

/-- A set put together from single characters has no others. -/
theorem CharSet.mem_of_singles? {set : CharSet} {chars : List Char} {char : Char}
    (put : set.singles? = some chars) (member : set.contains char = true) : char ∈ chars := by
  induction set generalizing chars with
  | empty => simp [contains] at member
  | range low high =>
      by_cases single : low = high
      · subst single
        simp only [singles?, if_true, Option.some.injEq] at put
        subst put
        simp only [contains, Bool.and_eq_true, decide_eq_true_eq] at member
        simp [Char.le_antisymm member.2 member.1]
      · simp [singles?, single] at put
  | union left right ihLeft ihRight =>
      obtain ⟨first, putLeft, rest⟩ := Option.bind_eq_some_iff.1 put
      obtain ⟨second, putRight, together⟩ := Option.bind_eq_some_iff.1 rest
      cases together
      rcases Bool.or_eq_true_iff.1 member with inLeft | inRight
      · exact List.mem_append_left _ (ihLeft putLeft inLeft)
      · exact List.mem_append_right _ (ihRight putRight inRight)
  | _ => simp [singles?] at put

namespace Pattern

/-- Whether the pattern starts and ends with the character, with something between. -/
def isQuotedBy (quote : Char) : Pattern → Bool
  | seq (chars opening) (seq _ (chars closing)) =>
      opening.singles? == some [quote] && closing.singles? == some [quote]
  | _ => false

theorem eq_quoted_of_spells {quote : Char} {pattern : Pattern} {text : Text}
    (quoted : pattern.isQuotedBy quote = true) (spells : pattern.Spells text) :
    ∃ middle, text = quote :: middle ++ [quote] := by
  unfold isQuotedBy at quoted
  split at quoted
  · rename_i opening body closing
    simp only [Bool.and_eq_true, beq_iff_eq] at quoted
    obtain ⟨_, _, rfl, ⟨first, inOpening, rfl⟩, middle, _, rfl, _, last, inClosing, rfl⟩ := spells
    have first_eq := CharSet.mem_of_singles? quoted.1 inOpening
    have last_eq := CharSet.mem_of_singles? quoted.2 inClosing
    rw [List.mem_singleton] at first_eq last_eq
    exact ⟨middle, by rw [first_eq, last_eq]; rfl⟩
  · cases quoted

/-- One character that is not special, or one that is special with any character behind it. -/
def IsQuotedPart (special slash any : CharSet) (part : Text) : Prop :=
  (∃ char, special.contains char = false ∧ part = [char]) ∨
    ∃ back char, special.contains back = true ∧ slash.contains back = true ∧
      any.contains char = true ∧ part = [back, char]

variable {special slash any : CharSet} {part : Text}

theorem IsQuotedPart.ne_nil (quoted : IsQuotedPart special slash any part) : part ≠ [] := by
  rcases quoted with ⟨_, _, rfl⟩ | ⟨_, _, _, _, _, rfl⟩ <;> simp

theorem IsQuotedPart.takes (quoted : IsQuotedPart special slash any part) (rest : Text) :
    (alt (chars special.compl) (seq (chars slash) (chars any))).Takes part rest := by
  rcases quoted with ⟨char, plain, rfl⟩ | ⟨back, char, isSpecial, isSlash, isAny, rfl⟩
  · refine takes_alt_left (takes_chars ?_ rest)
    rw [CharSet.contains, plain, Bool.not_false]
  · refine takes_alt_right (stops_chars ?_) (takes_seq (takes_chars isSlash _) (takes_chars isAny rest))
    rintro _ ⟨⟩
    rw [CharSet.contains, isSpecial, Bool.not_true]

/-- The parts of a quoted text are taken up to the closing quote. -/
theorem takes_quotedParts {quote : Char} {parts : List Text}
    (each : ∀ part ∈ parts, IsQuotedPart special slash any part)
    (isSpecial : special.contains quote = true) (noSlash : slash.contains quote = false)
    (rest : Text) :
    (rounds (alt (chars special.compl) (seq (chars slash) (chars any))) 0 none true).Takes
      parts.flatten (quote :: rest) := by
  refine takes_star (fun part member => (each part member).takes)
    (fun part member => (each part member).ne_nil) ?_
  refine stops_alt (stops_chars ?_) (stops_seq (stops_chars ?_))
  · rintro _ ⟨⟩
    rw [CharSet.contains, isSpecial, Bool.not_true]
  · rintro _ ⟨⟩
    exact noSlash

end Pattern

/-- Whether the searcher finds only texts in double quotes or in single quotes. -/
def Searcher.findsQuoted : Searcher → Bool
  | direct (.seq (.assertion .textStart) (.alt left right)) =>
      left.isQuotedBy '"' && right.isQuotedBy '\''
  | _ => false

theorem Searcher.readString?_of_find? {searcher : Searcher} (quoted : searcher.findsQuoted = true)
    {text found : Text} (finds : searcher.find? text = some found) :
    ∃ read, Arithmetic.readString? found = some read := by
  unfold findsQuoted at quoted
  split at quoted
  · rename_i left right
    rw [Bool.and_eq_true] at quoted
    obtain ⟨_, _, rfl, rfl, spells⟩ := spells_of_find? (by rfl) finds
    have readable : ∀ quote : Char, quote = '"' ∨ quote = '\'' → ∀ middle : Text,
        ∃ read, Arithmetic.readString? (quote :: middle ++ [quote]) = some read := by
      intro quote isQuote middle
      exact ⟨Arithmetic.unescape middle, by simp [Arithmetic.readString?, isQuote]⟩
    rcases spells with double | single
    · obtain ⟨middle, rfl⟩ := Pattern.eq_quoted_of_spells quoted.1 double
      exact readable '"' (.inl rfl) middle
    · obtain ⟨middle, rfl⟩ := Pattern.eq_quoted_of_spells quoted.2 single
      exact readable '\'' (.inr rfl) middle
  · cases quoted

namespace Arithmetic

theorem findsQuoted_of_name : ∀ term ∈ grammar.terms, term.name = "string" →
    term.start.searcher.findsQuoted = true := by
  have every : (grammar.terms.all fun term =>
      term.name != "string" || term.start.searcher.findsQuoted) = true := by
    decide +kernel
  intro term member named
  have here := List.all_eq_true.1 every term member
  simpa [named] using here

/-- Every string token of a parse tree has a text between its quotes. -/
theorem readString?_of_parse {options : ParseOptions} {source : Text} {tree node : Node}
    (parsed : grammar.parse options source = .ok tree) (contains : tree.Contains node)
    (named : node.IsTokenOf "string") : ∃ text, readString? (textOf node) = some text := by
  obtain ⟨term, member, _, name_eq, ahead, marker, found, content⟩ :=
    grammar.parse_matchesTokens parsed node contains named.1
  have quoted := findsQuoted_of_name term member (name_eq ▸ named.2)
  have finds := (Option.filter_eq_some_iff.1 found).1
  rw [textOf, content]
  exact Searcher.readString?_of_find? quoted finds

/-! ### Canonical literals -/

theorem unescape_escapedChar (char : Char) (text : Text) :
    unescape (escapedChar char ++ text) = char :: unescape text := by
  by_cases escaped : char = '\\' ∨ char = '"'
  · rw [escapedChar, if_pos escaped]
    rcases escaped with rfl | rfl <;> rfl
  · rw [escapedChar, if_neg escaped]
    rw [not_or] at escaped
    rw [List.singleton_append, unescape]
    · rintro rfl
      exact absurd rfl escaped.1
    · rintro _ _ rfl
      exact absurd rfl escaped.1

theorem unescape_flatMap (text : Text) : unescape (text.flatMap escapedChar) = text := by
  induction text with
  | nil => rfl
  | cons char text ih => rw [List.flatMap_cons, unescape_escapedChar, ih]

/-- A canonical string literal stands for its text. -/
theorem readString?_quoted (text : Text) :
    readString? ('"' :: text.flatMap escapedChar ++ ['"']) = some text := by
  simp [readString?, unescape_flatMap]

end Arithmetic

end Parlance
