import Mathlib.Algebra.GroupWithZero.Nat
import Parlance.Grammar.Matcher
import Parlance.Proofs.Text.Splitting

/-!
# Reading what a marker writes

How the reader of patterns takes a marker behind its anchor. What leaves the group around it open is
read as one piece of a sequence that begins with the anchor. Fixed texts are read back as they are:
a backslash takes its meaning from an operator, so an escaped text is read as its characters in a
row, and escaped texts with bars between them are read as the choice between these rows.
-/

namespace Parlance.Pattern

open Reader

variable {fuel : Nat} {source rest text : Text} {texts : List Text} {char : Char}
  {piece : Piece} {pieces branches : List Piece} {flags : Flags} {names : List Text}

/-- Behind a reader that succeeds, reading goes on where it ended. -/
theorem run_bind_of_ok {α β : Type} {reader : Reader α} {onward : α → Reader β}
    {before behind : Source} {result : α} (reads : reader.run before = .ok (result, behind)) :
    (reader >>= onward).run before = (onward result).run behind := by
  rw [StateT.run_bind, reads]
  rfl

/-! ### The group behind the anchor -/

/-- Read as the inside of a group, the written pattern ends at the parenthesis put behind it and at
no earlier one, so the group around it stays open up to there. -/
def LeavesGroupOpen (source : Text) : Prop :=
  ∃ piece flags names,
    (readBranches (source.length + 4) [] []).run ⟨source ++ [')'], .initial, []⟩ =
      .ok (piece, ⟨[')'], flags, names⟩)

theorem readBranches_caret (fuel : Nat) (rest : Text) :
    (readBranches (fuel + 1) [] []).run ⟨'^' :: rest, .initial, []⟩ =
      (readBranches fuel [.leaf (.assertion .textStart)] []).run ⟨rest, .initial, []⟩ := by
  rfl

/-- A group without flags of its own is read as one more piece, once its inside is read. -/
theorem readBranches_group (inside : (readBranches fuel [] []).run ⟨source, .initial, []⟩ =
      .ok (piece, ⟨[')'], flags, names⟩)) :
    (readBranches (fuel + 1) pieces branches).run ⟨'(' :: '?' :: ':' :: source, .initial, []⟩ =
      (readBranches fuel (piece.grouped :: pieces) branches).run ⟨[], .initial, names⟩ := by
  have opened : (readBranches (fuel + 1) pieces branches).run
      ⟨'(' :: '?' :: ':' :: source, .initial, []⟩ =
      ((readBranches fuel [] [] >>= fun inner => do
        unless ← passIf [')'] do throw Flaw.unclosedGroup
        setFlags .initial
        readBranches fuel (inner.grouped :: pieces) branches).run ⟨source, .initial, []⟩) := rfl
  rw [opened, run_bind_of_ok inside]
  rfl

theorem readBranches_end (fuel : Nat) (pieces branches : List Piece) (names : List Text) :
    (readBranches (fuel + 1) pieces branches).run ⟨[], .initial, names⟩ =
      .ok (.gather choice (.gather sequence pieces :: branches), ⟨[], .initial, names⟩) := by
  rfl

/-- Behind the anchor, what leaves its group open is read as a sequence of the anchor and itself. -/
theorem readBranches_anchor (inside : (readBranches (source.length + 4) [] []).run
      ⟨source ++ [')'], .initial, []⟩ = .ok (piece, ⟨[')'], flags, names⟩)) :
    (readBranches ((Marker.anchor source).length + 1) [] []).run
      ⟨Marker.anchor source, .initial, []⟩ =
      .ok (.gather sequence [piece.grouped, .leaf (.assertion .textStart)],
        ⟨[], .initial, names⟩) := by
  have size : (Marker.anchor source).length + 1 = source.length + 4 + 1 + 1 := by
    simp [Marker.anchor]
  rw [size]
  exact (readBranches_caret _ _).trans
    ((readBranches_group inside).trans (readBranches_end _ _ _ _))

/-- What is read to its end without nesting too deep is refused only for its size. -/
theorem read_of_readBranches (branches : (readBranches (source.length + 1) [] []).run
      ⟨source, .initial, []⟩ = .ok (piece, ⟨[], flags, names⟩))
    (shallow : piece.depth ≤ depthLimit) :
    read source = if piece.pattern.size ≤ sizeLimit then .ok piece.pattern else .error .tooLarge := by
  rw [read, branches]
  by_cases small : piece.pattern.size ≤ sizeLimit
  · simp [bind, Except.bind, pure, Except.pure, shallow, small]
  · simp [bind, Except.bind, shallow, small]
    rfl

/-- What is read as a whole is the pattern of the piece that the branches give. -/
theorem eq_pattern_of_read {rest : Source} {pattern : Pattern}
    (branches : (readBranches (source.length + 1) [] []).run ⟨source, .initial, []⟩ =
      .ok (piece, rest))
    (reads : read source = .ok pattern) : pattern = piece.pattern := by
  rw [read, branches] at reads
  by_cases ended : rest.ahead.isEmpty = true
  · by_cases shallow : piece.depth ≤ depthLimit
    · by_cases small : piece.pattern.size ≤ sizeLimit
      · simpa [bind, Except.bind, pure, Except.pure, ended, shallow, small, eq_comm] using reads
      · simp [bind, Except.bind, ended, shallow, small] at reads
    · simp [bind, Except.bind, ended, shallow] at reads
  · simp [bind, Except.bind, ended] at reads

/-! ### Escaped texts -/

/-- The characters of the text in a row. -/
def literal (text : Text) : Pattern :=
  sequence (text.map fun char => chars (.single char))

/-- The piece that one character is read as. -/
def Piece.ofChar (char : Char) : Piece := .leaf (.chars (.single char))

/-- The piece that an escaped text is read as. -/
def Piece.ofText (text : Text) : Piece := .gather sequence (text.map Piece.ofChar).reverse

/-- The piece that escaped texts with bars between them are read as. -/
def Piece.ofTexts (texts : List Text) : Piece := .gather choice (texts.map Piece.ofText).reverse

/-- An operator behind a backslash is read as itself. -/
theorem readBranches_operator (operator : isOperator char = true) :
    (readBranches (fuel + 1) pieces branches).run ⟨'\\' :: char :: rest, .initial, names⟩ =
      (readBranches fuel (.ofChar char :: pieces) branches).run ⟨rest, .initial, names⟩ := by
  rw [isOperator, List.contains_iff_mem] at operator
  simp only [List.mem_cons, List.not_mem_nil, or_false] at operator
  rcases operator with rfl | rfl | rfl | rfl | rfl | rfl | rfl | rfl | rfl | rfl | rfl | rfl | rfl |
    rfl | rfl | rfl | rfl | rfl <;> rfl

/-- A character that is no operator is read as itself. -/
theorem readBranches_plain (plain : isOperator char = false) :
    (readBranches (fuel + 1) pieces branches).run ⟨char :: rest, .initial, names⟩ =
      (readBranches fuel (.ofChar char :: pieces) branches).run ⟨rest, .initial, names⟩ := by
  simp only [isOperator, List.contains_eq_mem, List.mem_cons, List.not_mem_nil, or_false,
    decide_eq_false_iff_not, not_or] at plain
  obtain ⟨backslash, dot, plus, star, question, opening, closing, bar, bracket, _, brace, _, caret,
    dollar, _⟩ := plain
  have repeats : ¬(char = '?' ∨ char = '*' ∨ char = '+' ∨ char = '{') := by
    simp [question, star, plus, brace]
  have skips : (skip : Reader Unit).run ⟨char :: rest, .initial, names⟩ =
      .ok ((), ⟨char :: rest, .initial, names⟩) := rfl
  have nexts : (next : Reader (Option Char)).run ⟨char :: rest, .initial, names⟩ =
      .ok (some char, ⟨char :: rest, .initial, names⟩) := rfl
  have reads : (readSimple char).run ⟨char :: rest, .initial, names⟩ =
      .ok (.chars (.single char), ⟨rest, .initial, names⟩) := by
    unfold readSimple
    split
    · exact absurd rfl backslash
    · split
      · exact absurd rfl dot
      · exact absurd rfl caret
      · exact absurd rfl dollar
      · rfl
  rw [readBranches, run_bind_of_ok skips, run_bind_of_ok nexts]
  split <;> rename_i same
  · cases same
  · exact absurd (Option.some.inj same) closing
  · exact absurd (Option.some.inj same) bar
  · exact absurd (Option.some.inj same) opening
  · exact absurd (Option.some.inj same) bracket
  · cases same
    rw [if_neg repeats, run_bind_of_ok reads]
    rfl

/-- An escaped text is read as its characters, one piece each. -/
theorem readBranches_escape (text : Text) :
    (readBranches (text.length + fuel) pieces branches).run
      ⟨Marker.escape text ++ rest, .initial, names⟩ =
      (readBranches fuel ((text.map Piece.ofChar).reverse ++ pieces) branches).run
        ⟨rest, .initial, names⟩ := by
  induction text generalizing pieces with
  | nil => simp [Marker.escape]
  | cons char text ih =>
      have onward := @ih (.ofChar char :: pieces)
      rw [show (char :: text).length + fuel = text.length + fuel + 1 by simp; omega]
      simp only [Marker.escape, List.flatMap_cons, List.map_cons, List.reverse_cons,
        List.append_assoc, List.singleton_append] at onward ⊢
      cases operator : isOperator char with
      | true => exact (readBranches_operator operator).trans onward
      | false => exact (readBranches_plain operator).trans onward

/-- Escaped texts with bars between them are read as one branch each, up to the closing
parenthesis. -/
theorem readBranches_texts (some : texts ≠ []) :
    (readBranches ((texts.map fun text => text.length + 1).sum + fuel) [] branches).run
      ⟨Text.join ['|'] (texts.map Marker.escape) ++ ')' :: rest, .initial, names⟩ =
      .ok (.gather choice ((texts.map Piece.ofText).reverse ++ branches),
        ⟨')' :: rest, .initial, names⟩) := by
  induction texts generalizing branches with
  | nil => exact absurd rfl some
  | cons text texts ih =>
      cases texts with
      | nil =>
          have cost : ([text].map fun text => text.length + 1).sum + fuel =
              text.length + (fuel + 1) := by
            simp only [List.map_singleton, List.sum_singleton]
            omega
          rw [cost, List.map_singleton, Text.join_singleton, readBranches_escape, List.append_nil]
          rfl
      | cons other texts =>
          have cost : ((text :: other :: texts).map fun text => text.length + 1).sum + fuel =
              text.length + (((other :: texts).map fun text => text.length + 1).sum + fuel + 1) := by
            simp only [List.map_cons, List.sum_cons]
            omega
          have split : Text.join ['|'] ((text :: other :: texts).map Marker.escape) ++ ')' :: rest =
              Marker.escape text ++
                '|' :: (Text.join ['|'] ((other :: texts).map Marker.escape) ++ ')' :: rest) := by
            rw [List.map_cons, Text.join_cons _ _ (by simp)]
            simp
          have order : ((text :: other :: texts).map Piece.ofText).reverse ++ branches =
              ((other :: texts).map Piece.ofText).reverse ++ .ofText text :: branches := by
            simp
          rw [cost, split, order, readBranches_escape, List.append_nil]
          exact ih (by simp)

/-! ### The pattern of escaped texts -/

/-- Pieces that can be repeated are put together in their order. -/
theorem Piece.gather_pattern {join : List Pattern → Pattern} (none : join [] = empty)
    (one : ∀ pattern, join [pattern] = pattern)
    (repeatable : ∀ piece ∈ pieces, piece.repeatable = true) :
    (gather join pieces.reverse).pattern = join (pieces.map Piece.pattern) := by
  obtain ⟨last, rfl⟩ : ∃ last, pieces = last.reverse := ⟨pieces.reverse, by simp⟩
  rw [List.reverse_reverse]
  match last with
  | [] => exact none.symm
  | [piece] => exact (one piece.pattern).symm
  | first :: second :: others =>
      have all : (first :: second :: others).reverse.filter Piece.repeatable =
          (first :: second :: others).reverse := List.filter_eq_self.2 repeatable
      change join (((first :: second :: others).reverse.filter Piece.repeatable).map _) = _
      rw [all]

/-- The piece can be repeated and nests no deeper than this. -/
def Piece.Within (depth : Nat) (piece : Piece) : Prop :=
  piece.repeatable = true ∧ piece.depth ≤ depth

theorem Piece.gather_within {join : List Pattern → Pattern} {depth : Nat}
    (within : ∀ piece ∈ pieces, piece.Within depth) :
    (gather join pieces).Within (depth + 1) := by
  match pieces with
  | [] => exact ⟨rfl, Nat.zero_le _⟩
  | [piece] =>
      obtain ⟨repeatable, shallow⟩ := within piece (by simp)
      exact ⟨repeatable, Nat.le_succ_of_le shallow⟩
  | first :: second :: others =>
      refine ⟨rfl, ?_⟩
      have deepest : ((first :: second :: others).map Piece.depth).foldl max 0 ≤ depth := by
        refine List.foldlRecOn _ max (motive := (· ≤ depth)) (Nat.zero_le _) ?_
        intro deep shallow next member
        obtain ⟨piece, among, rfl⟩ := List.mem_map.1 member
        exact Nat.max_le.2 ⟨shallow, (within piece among).2⟩
      change 1 + _ ≤ _
      omega

theorem Piece.ofText_within (text : Text) : (Piece.ofText text).Within 1 := by
  apply gather_within
  simp only [List.mem_reverse, List.mem_map]
  rintro _ ⟨char, _, rfl⟩
  exact ⟨rfl, Nat.le_refl _⟩

/-- An escaped text is read as its characters in a row. -/
theorem Piece.ofText_pattern (text : Text) : (Piece.ofText text).pattern = literal text := by
  rw [ofText, gather_pattern rfl fun _ => rfl, List.map_map]
  · rfl
  · simp only [List.mem_map]
    rintro _ ⟨char, _, rfl⟩
    rfl

theorem Piece.ofTexts_within (texts : List Text) : (Piece.ofTexts texts).Within 2 := by
  apply gather_within
  simp only [List.mem_reverse, List.mem_map]
  rintro _ ⟨text, _, rfl⟩
  exact ofText_within text

/-- Escaped texts with bars between them are read as the choice between their characters in a row. -/
theorem Piece.ofTexts_pattern (texts : List Text) :
    (Piece.ofTexts texts).pattern = choice (texts.map literal) := by
  rw [ofTexts, gather_pattern rfl fun _ => rfl, List.map_map]
  · exact congrArg (fun pattern => choice (texts.map pattern)) (funext ofText_pattern)
  · simp only [List.mem_map]
    rintro _ ⟨text, _, rfl⟩
    exact (ofText_within text).1

theorem length_le_length_escape (text : Text) : text.length ≤ (Marker.escape text).length := by
  induction text with
  | nil => exact Nat.le_refl _
  | cons char text ih =>
      rw [Marker.escape] at ih ⊢
      rw [List.flatMap_cons, List.length_append, List.length_cons]
      split
      all_goals
        simp only [List.length_cons, List.length_nil]
        omega

/-- There are no more steps to read than characters, even if the texts have no operators. -/
theorem sum_length_le_length_join (texts : List Text) :
    (texts.map fun text => text.length + 1).sum ≤
      (Text.join ['|'] (texts.map Marker.escape)).length + 1 := by
  induction texts with
  | nil => simp
  | cons text texts ih =>
      have least := length_le_length_escape text
      cases texts with
      | nil =>
          simp only [List.map_singleton, List.sum_singleton, Text.join_singleton]
          omega
      | cons other texts =>
          rw [List.map_cons, List.sum_cons, List.map_cons (f := Marker.escape),
            Text.join_cons _ _ (by simp)]
          simp only [List.length_append, List.length_singleton]
          omega

/-- The anchor and behind it the choice between the texts. -/
def anchoredChoice (texts : List Text) : Pattern :=
  .seq (.assertion .textStart) (.choice (texts.map literal))

/-- Escaped texts with bars between them stay in the group behind the anchor and are read as the
choice between the texts, unless it is too large. -/
theorem read_texts (some : texts ≠ []) :
    LeavesGroupOpen (Text.join ['|'] (texts.map Marker.escape)) ∧
      read (Marker.anchor (Text.join ['|'] (texts.map Marker.escape))) =
        if (anchoredChoice texts).size ≤ sizeLimit then .ok (anchoredChoice texts)
        else .error .tooLarge := by
  have short := sum_length_le_length_join texts
  obtain ⟨fuel, enough⟩ : ∃ fuel, (Text.join ['|'] (texts.map Marker.escape)).length + 4 =
      (texts.map fun text => text.length + 1).sum + fuel := Nat.exists_eq_add_of_le (by omega)
  have inside : (readBranches ((Text.join ['|'] (texts.map Marker.escape)).length + 4) [] []).run
      ⟨Text.join ['|'] (texts.map Marker.escape) ++ [')'], .initial, []⟩ =
      .ok (.ofTexts texts, ⟨[')'], .initial, []⟩) := by
    rw [enough, readBranches_texts some, List.append_nil, Piece.ofTexts]
  refine ⟨⟨_, _, _, inside⟩, ?_⟩
  have shallow : (Piece.gather sequence [(Piece.ofTexts texts).grouped,
      .leaf (.assertion .textStart)]).depth ≤ depthLimit := by
    have shallow := (Piece.ofTexts_within texts).2
    change 1 + max (max 0 (_ + 1)) 0 ≤ 250
    omega
  rw [read_of_readBranches (readBranches_anchor inside) shallow, anchoredChoice,
    ← Piece.ofTexts_pattern]
  rfl

end Parlance.Pattern

namespace Parlance.Marker

/-- The texts that a choice between them writes, longer ones first. Without any, it writes what the
empty text writes. -/
def branches (texts : List Text) : List Text :=
  if texts.isEmpty then [[]] else longestFirst texts

theorem placeByLength_ne_nil (text : Text) (texts : List Text) : placeByLength text texts ≠ [] := by
  cases texts with
  | nil => exact List.cons_ne_nil _ _
  | cons other rest =>
      rw [placeByLength]
      split
      · exact List.cons_ne_nil _ _
      · exact List.cons_ne_nil _ _

theorem branches_ne_nil (texts : List Text) : branches texts ≠ [] := by
  cases texts with
  | nil => exact List.cons_ne_nil _ _
  | cons text rest => exact placeByLength_ne_nil _ _

theorem body_anyOf (texts : List Text) :
    (anyOf texts).body = Text.join ['|'] ((branches texts).map escape) := by
  cases texts <;> rfl

theorem body_literal (text : Text) : (literal text).body = Text.join ['|'] ([text].map escape) := by
  rw [List.map_singleton, Text.join_singleton, body]

end Parlance.Marker
