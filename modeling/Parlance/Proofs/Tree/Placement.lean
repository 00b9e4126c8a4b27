import Parlance.Proofs.Tree.Round

/-!
# Where nodes stand

A tree accounts for its text when every node stands right behind the text before it, with the length
of its own source text. `Node.PlacedAfter` states this along the tree. The parser places all its
nodes so, since what a round has skipped goes to the next node or to the end of the group and to
nothing else.
-/

namespace Parlance

namespace Node

/-- The start marker of a group. -/
def opening : Node → Text
  | token .. => []
  | group _ _ _ start .. => start

/-- The end marker of a group. -/
def closing : Node → Text
  | token .. => []
  | group _ _ _ _ stop .. => stop

/-- The text skipped before the end of a group. -/
def trailing : Node → Text
  | token .. => []
  | group _ _ _ _ _ _ _ trailing _ => trailing

/-- The source text of the node without the text skipped before it. -/
def span : Node → Text
  | token _ _ _ content _ => content
  | group _ _ _ start stop _ _ trailing children =>
      start ++ textOfAll children ++ trailing ++ stop

theorem text_eq (node : Node) : node.text = node.leading ++ node.span := by
  cases node <;> simp [text, leading, span]

@[simp] theorem leading_withLeading (node : Node) (leading : Text) :
    (node.withLeading leading).leading = leading := by
  cases node <;> rfl

@[simp] theorem span_withLeading (node : Node) (leading : Text) :
    (node.withLeading leading).span = node.span := by
  cases node <;> rfl

theorem text_withLeading (node : Node) (leading : Text) :
    (node.withLeading leading).text = leading ++ node.span := by
  rw [text_eq, leading_withLeading, span_withLeading]

mutual

/-- The node stands right behind the text before it: it starts after its leading text and is as long
as its span, and its children stand one behind the other after its start marker. -/
def PlacedAfter : Node → (before : Text) → Prop
  | token _ position length content leading, before =>
      position = (before ++ leading).byteLength ∧ length = content.byteLength
  | group _ position length start stop _ leading trailing children, before =>
      position = (before ++ leading).byteLength ∧
      length = (start ++ textOfAll children ++ trailing ++ stop).byteLength ∧
      AllPlacedAfter children (before ++ leading ++ start)

/-- The nodes stand one behind the other, the first of them behind the text before it, and none of
them is empty. -/
def AllPlacedAfter : List Node → (before : Text) → Prop
  | [], _ => True
  | node :: rest, before =>
      node.span ≠ [] ∧ node.PlacedAfter before ∧ AllPlacedAfter rest (before ++ node.text)

end

namespace PlacedAfter

variable {node : Node} {before : Text}

theorem position_eq (placed : node.PlacedAfter before) :
    node.position = (before ++ node.leading).byteLength := by
  cases node with
  | token => exact placed.1
  | group => exact placed.1

theorem length_eq (placed : node.PlacedAfter before) : node.length = node.span.byteLength := by
  cases node with
  | token => exact placed.2
  | group => exact placed.2.1

theorem children (placed : node.PlacedAfter before) :
    AllPlacedAfter node.children (before ++ node.leading ++ node.opening) := by
  cases node with
  | token => trivial
  | group => exact placed.2.2

/-- The same node after another skipped text stands behind what is before that text. -/
theorem withLeading {leading : Text} (bare : node.leading = [])
    (placed : node.PlacedAfter (before ++ leading)) :
    (node.withLeading leading).PlacedAfter before := by
  cases node with
  | token =>
      cases bare
      simpa [Node.withLeading, PlacedAfter] using placed
  | group =>
      cases bare
      simpa [Node.withLeading, PlacedAfter] using placed

end PlacedAfter

end Node

namespace Closed

/-- The closed group uses up the text from some point on, up to the rest: its children and what it
skipped stand there one behind the other. -/
structure Covers (closed : Closed) (before text rest : Text) : Prop where
  text_eq : text = Node.textOfAll closed.children ++ closed.trailing ++ closed.marker ++ rest
  cursor_eq : closed.cursor =
    .between (before ++ Node.textOfAll closed.children ++ closed.trailing ++ closed.marker) rest
  placed : Node.AllPlacedAfter closed.children before

end Closed

/-- A body that accounts for all text: from a point on, with some text pending, it closes the group
so that both the pending text and the text ahead are covered. The root leaves nothing over. -/
def GroupBody.Accounts (body : GroupBody) (size : Nat) : Prop :=
  ∀ frame candidates before pending ahead closed,
    (∀ stop ∈ frame.stop, stop.FindsPrefixes) →
    body frame candidates pending (.between (before ++ pending) ahead) = .ok closed →
    ∃ rest, closed.Covers before (pending ++ ahead) rest ∧
      (frame.stop = none → (before ++ pending ++ ahead).byteLength = size → rest = [])

/-- The node has been read at the start of the text ahead, and the cursor has been moved behind
it. -/
structure Node.ReadAt (node : Node) (before ahead : Text) (after : Cursor) : Prop where
  bare : node.leading = []
  nonempty : node.span ≠ []
  placed : node.PlacedAfter before
  rest : ∃ rest, ahead = node.span ++ rest ∧ after = .between (before ++ node.span) rest

namespace Parsing

variable {parsing : Parsing} {inner : GroupBody} {before ahead : Text}

/-- A token that is a match has been read at the cursor. -/
theorem token_readAt {matcher : Matcher} (faithful : matcher.FindsPrefixes) {name : String}
    {marker : Text} (found : matcher.match? ahead = some marker) :
    (Node.token name before.byteLength marker.byteLength marker []).ReadAt before ahead
      ((Cursor.between before ahead).advance marker) where
  bare := rfl
  nonempty := Matcher.match?_ne_nil found
  placed := by simp [Node.PlacedAfter]
  rest := by
    obtain ⟨rest, rfl⟩ := faithful.split found
    exact ⟨rest, rfl, Cursor.advance_between before marker rest⟩

/-- A group whose start marker is a match has been read at the cursor, if its body accounts for all
text. -/
theorem group_readAt (accounts : inner.Accounts parsing.size) {matcher stop : Matcher}
    (faithful : matcher.FindsPrefixes) (stopFaithful : stop.FindsPrefixes) {name : String}
    {marker : Text} {subgroups : List TermId} {node : Node} {after : Cursor}
    (found : matcher.match? ahead = some marker)
    (grouped : parsing.group inner name marker stop subgroups (.between before ahead) =
      .ok (node, after)) :
    node.ReadAt before ahead after := by
  obtain ⟨inside, rfl⟩ := faithful.split found
  obtain ⟨closed, parsed, rfl, rfl⟩ := group_eq_ok_iff.1 grouped
  have covered : ∃ rest, closed.Covers (before ++ marker) inside rest := by
    rw [Cursor.advance_between, ← List.append_nil (before ++ marker)] at parsed
    obtain ⟨rest, covers, _⟩ := accounts _ _ _ _ _ _ (by simpa using stopFaithful) parsed
    exact ⟨rest, covers⟩
  obtain ⟨rest, covers⟩ := covered
  have offset : closed.cursor.offset = (before ++ marker ++ Node.textOfAll closed.children ++
      closed.trailing ++ closed.marker).byteLength := by
    rw [covers.cursor_eq]
    rfl
  have markerNonempty := Matcher.match?_ne_nil found
  refine ⟨rfl, by simp [Parsing.node, Node.span, markerNonempty], ?_, rest, ?_, ?_⟩
  · simp only [Parsing.node, Node.PlacedAfter, offset, Cursor.between_offset,
      Text.byteLength_append, List.append_nil]
    exact ⟨trivial, by omega, covers.placed⟩
  · rw [covers.text_eq]
    simp [Parsing.node, Node.span]
  · rw [covers.cursor_eq]
    simp [Parsing.node, Node.span]

/-- What a term takes has been read at the cursor. -/
theorem Takes.readAt (prefixes : parsing.grammar.FindsPrefixes)
    (accounts : inner.Accounts parsing.size) {id : TermId} {term : Term} {marker : Text}
    {node : Node} {after : Cursor} (named : parsing.grammar.term? id = some term)
    (found : term.start.match? ahead = some marker)
    (takes : parsing.Takes inner (.between before ahead) term marker node after) :
    node.ReadAt before ahead after := by
  obtain ⟨startFaithful, stopFaithful⟩ := prefixes term (Grammar.mem_terms_of_term? named)
  cases shape : term.body with
  | token =>
      simp only [Takes, shape] at takes
      obtain ⟨rfl, rfl⟩ := takes
      exact token_readAt startFaithful found
  | group stop subgroups =>
      simp only [Takes, shape] at takes
      exact group_readAt accounts startFaithful (stopFaithful stop (by simp [Term.stop?, shape]))
        found takes

/-- A candidate that is tried with success has been read at the cursor. -/
theorem tryCandidates_readAt (prefixes : parsing.grammar.FindsPrefixes)
    (accounts : inner.Accounts parsing.size) {candidates : List TermId}
    {rejected : Option ParseError} {term : Term} {node : Node} {after : Cursor}
    (matched : parsing.tryCandidates inner (.between before ahead) candidates rejected =
      .ok (.matched term node after)) :
    node.ReadAt before ahead after := by
  obtain ⟨id, marker, named, found, takes⟩ := takes_of_tryCandidates matched
  exact takes.readAt prefixes accounts named found

/-- What is skipped between tokens is a text at the cursor. -/
theorem trySkip_split (prefixes : parsing.grammar.FindsPrefixes)
    (accounts : inner.Accounts parsing.size) {skipped : Text} {after : Cursor}
    (skips : parsing.trySkip inner (.between before ahead) = .ok (some (skipped, after))) :
    ∃ rest, ahead = skipped ++ rest ∧ after = .between (before ++ skipped) rest := by
  obtain ⟨term, marker, node, named, found, takes, rfl⟩ := trySkip_eq_some_iff.1 skips
  obtain ⟨id, _, numbered⟩ := Option.bind_eq_some_iff.1 named
  have reading := takes.readAt prefixes accounts numbered found
  rw [Node.text_eq, reading.bare]
  exact reading.rest

/-- A child takes the pending text in front of it, and the rest of the group is accounted for behind
it. -/
theorem covers_child {pending : Text} {node : Node} {after : Cursor} {closed : Closed}
    (reading : node.ReadAt (before ++ pending) ahead after)
    {middle rest : Text} (split : ahead = node.span ++ middle)
    (covers : closed.Covers (before ++ (node.withLeading pending).text) middle rest) :
    ({ closed with children := node.withLeading pending :: closed.children } : Closed).Covers
      before (pending ++ ahead) rest where
  text_eq := by
    rw [split, covers.text_eq]
    simp [Node.textOfAll, Node.text_withLeading]
  cursor_eq := by
    rw [covers.cursor_eq]
    simp [Node.textOfAll]
  placed := by
    refine ⟨?_, reading.placed.withLeading reading.bare, covers.placed⟩
    rw [Node.span_withLeading]
    exact reading.nonempty

/-- However deep it looks, the parser accounts for all text. -/
theorem body_accounts (prefixes : parsing.grammar.FindsPrefixes) (fuel : Nat) :
    (parsing.body fuel).Accounts parsing.size := by
  induction fuel with
  | zero =>
      intro frame candidates before pending ahead closed _ done
      simp [body] at done
  | succ fuel accounts =>
      intro frame candidates before pending ahead closed stopsFaithful done
      cases body_succ_eq_ok_iff.1 done with
      | ends atEnd root =>
          refine ⟨ahead, ⟨by simp [Node.textOfAll], by simp [Node.textOfAll], trivial⟩, ?_⟩
          intro _ whole
          simp only [Cursor.between_offset, Text.byteLength_append] at atEnd whole
          exact Text.byteLength_eq_zero.1 (by omega)
      | @child term node after rest _ matched continues =>
          have reading := tryCandidates_readAt prefixes accounts matched
          obtain ⟨middle, split, moved⟩ := reading.rest
          have behind : before ++ pending ++ node.span =
              before ++ (node.withLeading pending).text ++ [] := by
            simp [Node.text_withLeading]
          rw [moved, behind] at continues
          obtain ⟨last, covers, ends⟩ := accounts _ _ _ _ _ _ stopsFaithful continues
          refine ⟨last, covers_child reading split covers, ?_⟩
          intro root whole
          refine ends root ?_
          rw [← whole, split]
          simp [Node.text_withLeading]
      | closes _ _ stops ended =>
          obtain ⟨rest, rfl⟩ := (stopsFaithful _ stops).split ended
          refine ⟨rest, ⟨by simp [Node.textOfAll], ?_, trivial⟩, ?_⟩
          · simp [Node.textOfAll]
          · intro root
            simp [stops] at root
      | skips _ _ _ skipping continues =>
          obtain ⟨rest, rfl, rfl⟩ := trySkip_split prefixes accounts skipping
          rw [List.append_assoc before] at continues
          obtain ⟨last, covers, ends⟩ := accounts _ _ _ _ _ _ stopsFaithful continues
          refine ⟨last, by simpa using covers, ?_⟩
          intro root whole
          exact ends root (by simpa using whole)

end Parsing

end Parlance
