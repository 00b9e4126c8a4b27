import Parlance.Proofs.Pattern.Anchor
import Parlance.Tree.Parsing

/-!
# Rounds of the parser

Parsing a group goes round: it ends with the text, takes a child, closes the group or skips what may
stand between tokens. `Parsing.Round` names these four ways to succeed and `body_succ_eq_ok_iff` says
that there are no others; `Parsing.Takes` names what a term makes of its start marker. Statements
about successful parses need not look into the parser again. Cursors are seen as splits of the text
into what has been passed and what lies ahead.
-/

namespace Parlance

namespace Cursor

/-- The cursor between two parts of a text. -/
def between (before ahead : Text) : Cursor := ⟨before.byteLength, some ahead⟩

@[simp] theorem between_offset (before ahead : Text) :
    (between before ahead).offset = before.byteLength := rfl

@[simp] theorem between_ahead (before ahead : Text) :
    (between before ahead).ahead = some ahead := rfl

@[simp] theorem advance_between (before found rest : Text) :
    (between before (found ++ rest)).advance found = between (before ++ found) rest := by
  simp [between, advance]

end Cursor

@[simp] theorem Matcher.matchAt?_between (matcher : Matcher) (before ahead : Text) :
    matcher.matchAt? (.between before ahead) = matcher.match? ahead := rfl

theorem Grammar.mem_terms_of_term? {grammar : Grammar} {id : TermId} {term : Term}
    (found : grammar.term? id = some term) : term ∈ grammar.terms :=
  List.mem_of_getElem? found

namespace Parsing

variable {parsing : Parsing} {inner : GroupBody} {frame : Frame} {candidates : List TermId}
  {pending : Text} {cursor : Cursor}

/-- What the term makes of its start marker at the cursor: a token of the marker, or a group whose
rest `inner` has parsed. -/
def Takes (parsing : Parsing) (inner : GroupBody) (cursor : Cursor) (term : Term) (marker : Text)
    (node : Node) (after : Cursor) : Prop :=
  match term.body with
  | .token =>
      node = .token term.name cursor.offset marker.byteLength marker [] ∧
      after = cursor.advance marker
  | .group stop subgroups =>
      parsing.group inner term.name marker stop subgroups cursor = .ok (node, after)

theorem group_eq_ok_iff {name : String} {marker : Text} {stop : Matcher} {subgroups : List TermId}
    {node : Node} {after : Cursor} :
    parsing.group inner name marker stop subgroups cursor = .ok (node, after) ↔
      ∃ closed, inner ⟨name, marker, cursor, some stop⟩ subgroups [] (cursor.advance marker) =
          .ok closed ∧
        node = parsing.node ⟨name, marker, cursor, some stop⟩ closed ∧ after = closed.cursor := by
  rw [group]
  cases inner ⟨name, marker, cursor, some stop⟩ subgroups [] (cursor.advance marker) with
  | error error => simp [bind, Except.bind]
  | ok closed => simp [bind, Except.bind, pure, Except.pure, eq_comm]

/-- With or without backtracking, the child that is tried with success is one that a candidate
takes. -/
theorem takes_of_tryCandidates {rejected : Option ParseError} {term : Term} {node : Node}
    {after : Cursor}
    (matched : parsing.tryCandidates inner cursor candidates rejected =
      .ok (.matched term node after)) :
    ∃ id marker, parsing.grammar.term? id = some term ∧
      term.start.matchAt? cursor = some marker ∧
      parsing.Takes inner cursor term marker node after := by
  induction candidates generalizing rejected with
  | nil => simp [tryCandidates] at matched
  | cons id ids ih =>
      rw [tryCandidates] at matched
      cases named : parsing.grammar.term? id with
      | none => exact ih (by simpa [named] using matched)
      | some candidate =>
          cases found : candidate.start.matchAt? cursor with
          | none => exact ih (by simpa [named, found] using matched)
          | some marker =>
              cases shape : candidate.body with
              | token =>
                  simp only [named, found, shape, Except.ok.injEq, Attempt.matched.injEq] at matched
                  obtain ⟨rfl, rfl, rfl⟩ := matched
                  exact ⟨id, marker, named, found, by simp [Takes, shape]⟩
              | group stop subgroups =>
                  simp only [named, found, shape] at matched
                  cases grouped : parsing.group inner candidate.name marker stop subgroups
                      cursor with
                  | error error =>
                      rw [grouped] at matched
                      by_cases backtracks : parsing.options.backtrack = true
                      · exact ih (by simpa [backtracks] using matched)
                      · simp [backtracks] at matched
                  | ok read =>
                      simp only [grouped, Except.ok.injEq, Attempt.matched.injEq] at matched
                      obtain ⟨rfl, rfl, rfl⟩ := matched
                      exact ⟨id, marker, named, found, by simp [Takes, shape, grouped]⟩

/-- What is skipped is the text that the term between tokens takes. -/
theorem trySkip_eq_some_iff {skipped : Text} {after : Cursor} :
    parsing.trySkip inner cursor = .ok (some (skipped, after)) ↔
      ∃ term marker node, parsing.grammar.aether.bind parsing.grammar.term? = some term ∧
        term.start.matchAt? cursor = some marker ∧
        parsing.Takes inner cursor term marker node after ∧ skipped = node.text := by
  rw [trySkip]
  cases named : parsing.grammar.aether.bind parsing.grammar.term? with
  | none => simp
  | some term =>
      cases found : term.start.matchAt? cursor with
      | none => simp [found]
      | some marker =>
          cases shape : term.body with
          | token => simp [found, shape, Takes, Node.text, and_comm, eq_comm]
          | group stop subgroups =>
              cases grouped : parsing.group inner term.name marker stop subgroups cursor with
              | error error =>
                  by_cases backtracks : parsing.options.backtrack = true <;>
                    simp [found, shape, Takes, grouped, backtracks]
              | ok read =>
                  obtain ⟨node, behind⟩ := read
                  constructor
                  · intro skips
                    simp only [found, shape, grouped, Except.ok.injEq, Option.some.injEq,
                      Prod.mk.injEq] at skips
                    obtain ⟨rfl, rfl⟩ := skips
                    exact ⟨term, marker, node, rfl, found, by simp [Takes, shape, grouped], rfl⟩
                  · rintro ⟨_, _, read, ⟨⟩, finds, takes, rfl⟩
                    obtain rfl := Option.some.inj (found.symm.trans finds)
                    simp only [Takes, shape, grouped, Except.ok.injEq, Prod.mk.injEq] at takes
                    simp [found, shape, grouped, takes]

/-- One round inside a group that ends well: where `inner` parses the rest of a group, the group is
closed like this. -/
inductive Round (parsing : Parsing) (inner : GroupBody) (frame : Frame) (candidates : List TermId)
    (pending : Text) (cursor : Cursor) : Closed → Prop where
  | ends (atEnd : parsing.size ≤ cursor.offset) (root : frame.stop = none) :
      Round parsing inner frame candidates pending cursor ⟨[], pending, [], cursor⟩
  | child {term node after rest} (inText : ¬parsing.size ≤ cursor.offset)
      (matched : parsing.tryCandidates inner cursor candidates none = .ok (.matched term node after))
      (continues : inner frame (term.candidatesAfter candidates) [] after = .ok rest) :
      Round parsing inner frame candidates pending cursor
        { rest with children := node.withLeading pending :: rest.children }
  | closes {rejected stop marker} (inText : ¬parsing.size ≤ cursor.offset)
      (unmatched : parsing.tryCandidates inner cursor candidates none = .ok (.unmatched rejected))
      (stops : frame.stop = some stop) (ended : stop.matchAt? cursor = some marker) :
      Round parsing inner frame candidates pending cursor
        ⟨[], pending, marker, cursor.advance marker⟩
  | skips {rejected skipped after closed} (inText : ¬parsing.size ≤ cursor.offset)
      (unmatched : parsing.tryCandidates inner cursor candidates none = .ok (.unmatched rejected))
      (stays : ∀ stop ∈ frame.stop, stop.matchAt? cursor = none)
      (skipping : parsing.trySkip inner cursor = .ok (some (skipped, after)))
      (continues : inner frame candidates (pending ++ skipped) after = .ok closed) :
      Round parsing inner frame candidates pending cursor closed

theorem bind_matchAt?_eq_none {stop : Option Matcher} :
    stop.bind (·.matchAt? cursor) = none ↔ ∀ matcher ∈ stop, matcher.matchAt? cursor = none := by
  cases stop <;> simp

/-- A body that succeeds goes one of the four rounds, and each of them makes it succeed. -/
theorem body_succ_eq_ok_iff {fuel : Nat} {closed : Closed} :
    parsing.body (fuel + 1) frame candidates pending cursor = .ok closed ↔
      Round parsing (parsing.body fuel) frame candidates pending cursor closed := by
  constructor
  · intro done
    rw [body] at done
    by_cases atEnd : parsing.size ≤ cursor.offset
    · rw [if_pos atEnd] at done
      cases stops : frame.stop with
      | none =>
          simp only [stops, Except.ok.injEq] at done
          subst done
          exact .ends atEnd stops
      | some stop => simp [stops] at done
    · rw [if_neg atEnd] at done
      cases tried : parsing.tryCandidates (parsing.body fuel) cursor candidates none with
      | error error => simp [tried, bind, Except.bind] at done
      | ok attempt =>
          cases attempt with
          | matched term node after =>
              simp only [tried, bind, Except.bind] at done
              cases rest : parsing.body fuel frame (term.candidatesAfter candidates) [] after with
              | error error => simp [rest] at done
              | ok rest' =>
                  simp only [rest, pure, Except.pure, Except.ok.injEq] at done
                  subst done
                  exact .child atEnd tried rest
          | unmatched rejected =>
              simp only [tried, bind, Except.bind] at done
              cases ended : frame.stop.bind (·.matchAt? cursor) with
              | some marker =>
                  simp only [ended, pure, Except.pure, Except.ok.injEq] at done
                  subst done
                  obtain ⟨stop, stops, found⟩ := Option.bind_eq_some_iff.1 ended
                  exact .closes atEnd tried stops found
              | none =>
                  simp only [ended] at done
                  cases skipping : parsing.trySkip (parsing.body fuel) cursor with
                  | error error => simp [skipping] at done
                  | ok skip =>
                      cases skip with
                      | none => cases rejected <;> simp [skipping] at done
                      | some skip =>
                          simp only [skipping] at done
                          exact .skips atEnd tried (bind_matchAt?_eq_none.1 ended) skipping done
  · intro round
    rw [body]
    cases round with
    | ends atEnd root => simp [atEnd, root]
    | child inText matched continues =>
        simp [inText, matched, continues, bind, Except.bind, pure, Except.pure]
    | closes inText unmatched stops ended =>
        simp [inText, unmatched, stops, ended, bind, Except.bind, pure, Except.pure]
    | skips inText unmatched stays skipping continues =>
        simp [inText, unmatched, bind_matchAt?_eq_none.2 stays, skipping, continues, bind,
          Except.bind]

end Parsing

/-- A parse is the body of the root put into a node. -/
theorem Grammar.parse_eq_ok_iff_body {grammar : Grammar} {options : ParseOptions} {text : Text}
    {tree : Node} :
    grammar.parse options text = .ok tree ↔
      ∃ closed, Parsing.body ⟨grammar, options, text, text.byteLength⟩ (text.byteLength + 1)
          ⟨grammar.rootName, [], .between [] text, none⟩ grammar.root [] (.between [] text) =
          .ok closed ∧
        tree = Parsing.node ⟨grammar, options, text, text.byteLength⟩
          ⟨grammar.rootName, [], .between [] text, none⟩ closed := by
  rw [parse, Parsing.run, show Cursor.start text = .between [] text from rfl]
  cases Parsing.body ⟨grammar, options, text, text.byteLength⟩ (text.byteLength + 1)
      ⟨grammar.rootName, [], .between [] text, none⟩ grammar.root [] (.between [] text) with
  | error error => simp [bind, Except.bind]
  | ok closed => simp [bind, Except.bind, pure, Except.pure, eq_comm]

end Parlance
