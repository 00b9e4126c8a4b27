import Parlance.Arithmetic.Language
import Parlance.Proofs.Tree.Nodes
import Parlance.Proofs.Tree.Placement

/-!
# Round trip

A parse tree is a faithful picture of its text at every node. The source text of a node is the text
skipped before it followed by the slice of the input that its position and length name. The children
of a group divide its inside without overlap, and every gap between them is the leading text of the
later one, the last gap the trailing text of the group.
-/

namespace Parlance

namespace Text

/-- Whether the offset lies between two characters of the text or at one of its ends. -/
def IsBoundary (text : Text) (offset : Nat) : Prop :=
  ∃ before after, text = before ++ after ∧ before.byteLength = offset

/-- The text between two byte offsets, if both are boundaries and the second is not before the
first. -/
def between? (text : Text) (start stop : Nat) : Option Text :=
  if start ≤ stop then (text.dropBytes? start).bind (·.takeBytes? (stop - start)) else none

theorem le_of_between? {text part : Text} {start stop : Nat}
    (cut : text.between? start stop = some part) : start ≤ stop := by
  by_cases ordered : start ≤ stop
  · exact ordered
  · simp [between?, ordered] at cut

theorem between?_append (before part after : Text) :
    (before ++ part ++ after).between? before.byteLength (before ++ part).byteLength =
      some part := by
  have length : (before ++ part).byteLength - before.byteLength = part.byteLength := by
    rw [byteLength_append]
    omega
  rw [between?, if_pos (by rw [byteLength_append]; omega), List.append_assoc, dropBytes?_append,
    length]
  exact takeBytes?_append part after

end Text

namespace Node

/-- From `start` to `stop` the text consists of the children, each with its leading text in front of
it, and the trailing text. No child is empty. -/
def Tiled (text : Text) : (start : Nat) → (children : List Node) → (trailing : Text) →
    (stop : Nat) → Prop
  | start, [], trailing, stop => text.between? start stop = some trailing
  | start, child :: rest, trailing, stop =>
      text.between? start child.position = some child.leading ∧ 0 < child.length ∧
      Tiled text (child.position + child.length) rest trailing stop

/-- The node shows the part of the text that it claims to show, and its children divide that part
among them. -/
structure Faithful (node : Node) (text : Text) : Prop where
  starts : text.IsBoundary node.position
  stops : text.IsBoundary (node.position + node.length)
  spans : ∃ span, text.between? node.position (node.position + node.length) = some span ∧
    node.text = node.leading ++ span
  nonempty : ∀ child ∈ node.children, 0 < child.length
  ordered : node.children.Pairwise fun former later =>
    former.position + former.length ≤ later.position
  inside : ∀ child ∈ node.children, node.position + node.opening.byteLength ≤ child.position ∧
    child.position + child.length + node.closing.byteLength ≤ node.position + node.length
  gaps : node.isToken = false → ∃ stop,
    stop + node.closing.byteLength = node.position + node.length ∧
    Tiled text (node.position + node.opening.byteLength) node.children node.trailing stop

namespace Tiled

variable {text trailing : Text} {children : List Node} {start stop : Nat}

theorem bounds (tiled : Tiled text start children trailing stop) :
    start ≤ stop ∧ ∀ child ∈ children,
      0 < child.length ∧ start ≤ child.position ∧ child.position + child.length ≤ stop := by
  induction children generalizing start with
  | nil => exact ⟨Text.le_of_between? tiled, by simp⟩
  | cons child rest ih =>
      obtain ⟨gap, positive, tiled⟩ := tiled
      obtain ⟨stopsLater, restInside⟩ := ih tiled
      have startsEarlier := Text.le_of_between? gap
      refine ⟨by omega, ?_⟩
      intro other member
      rcases List.mem_cons.1 member with rfl | member
      · exact ⟨positive, startsEarlier, stopsLater⟩
      · obtain ⟨otherPositive, afterChild, beforeStop⟩ := restInside other member
        exact ⟨otherPositive, by omega, beforeStop⟩

theorem ordered (tiled : Tiled text start children trailing stop) :
    children.Pairwise fun former later => former.position + former.length ≤ later.position := by
  induction children generalizing start with
  | nil => exact List.Pairwise.nil
  | cons child rest ih =>
      obtain ⟨_, _, tiled⟩ := tiled
      refine List.pairwise_cons.2 ⟨?_, ih tiled⟩
      intro later member
      exact (tiled.bounds.2 later member).2.1

end Tiled

/-- The end of a placed node is the end of its text. -/
theorem PlacedAfter.stop_eq {node : Node} {before : Text} (placed : node.PlacedAfter before) :
    node.position + node.length = (before ++ node.text).byteLength := by
  rw [placed.position_eq, placed.length_eq, text_eq]
  simp [Nat.add_assoc]

/-- Nodes placed one behind the other tile the text that they and the trailing text make up. -/
theorem AllPlacedAfter.tiled {children : List Node} {before : Text} (trailing after : Text)
    (placed : AllPlacedAfter children before) :
    Tiled (before ++ textOfAll children ++ trailing ++ after) before.byteLength children trailing
      (before ++ textOfAll children ++ trailing).byteLength := by
  induction children generalizing before with
  | nil =>
      simp only [Tiled, textOfAll, List.append_nil]
      exact Text.between?_append before trailing after
  | cons child rest ih =>
      obtain ⟨nonempty, childPlaced, restPlaced⟩ := placed
      refine ⟨?_, ?_, ?_⟩
      · have cut := Text.between?_append before child.leading
          (child.span ++ textOfAll rest ++ trailing ++ after)
        rw [childPlaced.position_eq]
        simpa [textOfAll, text_eq] using cut
      · rw [childPlaced.length_eq]
        exact Nat.pos_of_ne_zero fun zero => nonempty (Text.byteLength_eq_zero.1 zero)
      · have tiled := ih restPlaced
        rw [childPlaced.stop_eq]
        simpa [textOfAll] using tiled

/-- The inside of a placed group is tiled by its children. -/
theorem PlacedAfter.tiled {node : Node} {before : Text} (after : Text)
    (placed : node.PlacedAfter before) (isGroup : node.isToken = false) :
    ∃ stop, stop + node.closing.byteLength = node.position + node.length ∧
      Tiled (before ++ node.text ++ after) (node.position + node.opening.byteLength)
        node.children node.trailing stop := by
  cases node with
  | token => simp [isToken] at isGroup
  | group name position length opening closing content leading trailing children =>
      have ending := placed.stop_eq
      obtain ⟨rfl, _, childrenPlaced⟩ := placed
      refine ⟨(before ++ leading ++ opening ++ textOfAll children ++ trailing).byteLength, ?_, ?_⟩
      · rw [ending]
        simp only [Node.closing, text, Text.byteLength_append]
        omega
      · have tiled := childrenPlaced.tiled trailing (closing ++ after)
        simpa [text, Node.opening, Node.position, Node.children, Node.trailing, Nat.add_assoc]
          using tiled

/-- A node that stands where its text stands is faithful to the whole text. -/
theorem PlacedAfter.faithful {node : Node} {before : Text} (after : Text)
    (placed : node.PlacedAfter before) : node.Faithful (before ++ node.text ++ after) := by
  have ending := placed.stop_eq
  have whole : before ++ node.text ++ after = before ++ node.leading ++ node.span ++ after := by
    simp [text_eq]
  have cut := Text.between?_append (before ++ node.leading) node.span after
  have children : ∀ child ∈ node.children, 0 < child.length ∧
      node.position + node.opening.byteLength ≤ child.position ∧
      child.position + child.length + node.closing.byteLength ≤ node.position + node.length := by
    cases node with
    | token => simp [Node.children]
    | group =>
        intro child member
        obtain ⟨stop, closes, tiled⟩ := placed.tiled after rfl
        obtain ⟨positive, first, last⟩ := tiled.bounds.2 child member
        exact ⟨positive, first, by omega⟩
  refine ⟨?_, ?_, ?_, ?_, ?_, ?_, placed.tiled after⟩
  · exact ⟨before ++ node.leading, node.span ++ after, by simp [text_eq], placed.position_eq.symm⟩
  · exact ⟨before ++ node.text, after, rfl, ending.symm⟩
  · refine ⟨node.span, ?_, text_eq node⟩
    rw [placed.position_eq, placed.length_eq, whole, ← Text.byteLength_append]
    exact cut
  · exact fun child member => (children child member).1
  · cases node with
    | token => exact List.Pairwise.nil
    | group =>
        obtain ⟨_, _, tiled⟩ := placed.tiled after rfl
        exact tiled.ordered
  · exact fun child member => (children child member).2

/-- Of nodes placed one behind the other, each stands behind the text before it. -/
theorem AllPlacedAfter.split {children : List Node} {before : Text}
    (placed : AllPlacedAfter children before) {child : Node} (member : child ∈ children) :
    ∃ earlier later, textOfAll children = earlier ++ child.text ++ later ∧
      child.PlacedAfter (before ++ earlier) := by
  induction children generalizing before with
  | nil => cases member
  | cons first rest ih =>
      obtain ⟨_, firstPlaced, restPlaced⟩ := placed
      rcases List.mem_cons.1 member with rfl | member
      · exact ⟨[], textOfAll rest, rfl, by simpa using firstPlaced⟩
      · obtain ⟨earlier, later, rest_eq, childPlaced⟩ := ih restPlaced member
        refine ⟨first.text ++ earlier, later, ?_, ?_⟩
        · simp [textOfAll, rest_eq]
        · simpa using childPlaced

/-- If the whole tree is placed, then every node inside it is, with the text of the whole around
it. -/
theorem Contains.placed {tree node : Node} {before : Text} (contains : tree.Contains node)
    (placed : tree.PlacedAfter before) :
    ∃ earlier later, before ++ tree.text = earlier ++ node.text ++ later ∧
      node.PlacedAfter earlier := by
  induction contains with
  | self => exact ⟨before, [], by simp, placed⟩
  | @child outer child _ member ih =>
      obtain ⟨earlier, later, whole, outerPlaced⟩ := ih
      obtain ⟨between, behind, children_eq, childPlaced⟩ := outerPlaced.children.split member
      cases outer with
      | token => cases member
      | group name position length opening closing content leading trailing children =>
          refine ⟨earlier ++ leading ++ opening ++ between,
            behind ++ trailing ++ closing ++ later, ?_, childPlaced⟩
          have children_eq : textOfAll children = between ++ child.text ++ behind := children_eq
          rw [whole]
          simp [text, children_eq]

end Node

/-- The tree of a text is placed at its start and spells the whole of it. -/
theorem Grammar.parse_placed {grammar : Grammar} (prefixes : grammar.FindsPrefixes)
    {options : ParseOptions} {text : Text} {tree : Node}
    (parsed : grammar.parse options text = .ok tree) :
    tree.PlacedAfter [] ∧ tree.text = text := by
  obtain ⟨closed, done, rfl⟩ := parse_eq_ok_iff_body.1 parsed
  obtain ⟨rest, covers, ends⟩ := Parsing.body_accounts prefixes _ _ _ [] [] text closed
    (by simp) done
  have nothingLeft : rest = [] := ends rfl rfl
  subst nothingLeft
  have whole := covers.text_eq
  simp only [List.nil_append, List.append_nil] at whole
  refine ⟨⟨rfl, ?_, by simpa using covers.placed⟩, ?_⟩
  · simp [covers.cursor_eq]
  · simp [Parsing.node, Node.text, ← whole]

/-- A parse tree spells its text and is faithful to it at every node, whatever the options, if the
markers of the grammar find only what stands at the cursor. So do markers of fixed texts and written
patterns that leave the group around them open. -/
theorem Grammar.parse_faithful :
    (∀ {marker : Marker} {matcher : Matcher}, marker.LeavesGroupOpen →
      marker.matcher = .ok matcher → matcher.FindsPrefixes) ∧
    ∀ {grammar : Grammar}, grammar.FindsPrefixes →
      ∀ {options : ParseOptions} {text : Text} {tree : Node},
        grammar.parse options text = .ok tree →
        tree.text = text ∧ ∀ node, tree.Contains node → node.Faithful text := by
  refine ⟨Marker.findsPrefixes, ?_⟩
  intro grammar prefixes options text tree parsed
  obtain ⟨placed, whole⟩ := grammar.parse_placed prefixes parsed
  refine ⟨whole, ?_⟩
  intro node contains
  obtain ⟨before, after, split, nodePlaced⟩ := contains.placed placed
  rw [List.nil_append, whole] at split
  rw [split]
  exact nodePlaced.faithful after

theorem Arithmetic.parse_faithful_call :
    Marker.LeavesGroupOpen (.pattern ['(', 'a', ')', '+']) ∧
    (∃ matcher, Marker.matcher (.pattern ['(', 'a', ')', '+']) = .ok matcher ∧
      matcher.FindsPrefixes) ∧
    grammar.FindsPrefixes ∧
    ∃ tree, grammar.parse ⟨true, true⟩ " f( 'é'\u3000, a[ 0 ] ) ".toList = .ok tree ∧
      tree.text = " f( 'é'\u3000, a[ 0 ] ) ".toList ∧
      ∀ node, tree.Contains node → node.Faithful " f( 'é'\u3000, a[ 0 ] ) ".toList := by
  have opened : Marker.LeavesGroupOpen (.pattern ['(', 'a', ')', '+']) := ⟨_, _, _, rfl⟩
  have prefixes : grammar.FindsPrefixes := Grammar.findsPrefixes_of_isAnchored (by decide +kernel)
  have succeeds : (grammar.parse ⟨true, true⟩ " f( 'é'\u3000, a[ 0 ] ) ".toList).isOk = true := by
    decide +kernel
  refine ⟨opened, ⟨_, rfl, Grammar.parse_faithful.1 opened rfl⟩, prefixes, ?_⟩
  cases parsed : grammar.parse ⟨true, true⟩ " f( 'é'\u3000, a[ 0 ] ) ".toList with
  | error error =>
      rw [parsed] at succeeds
      cases succeeds
  | ok tree => exact ⟨tree, rfl, Grammar.parse_faithful.2 prefixes parsed⟩

end Parlance
