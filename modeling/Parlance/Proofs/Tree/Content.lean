import Parlance.Proofs.Outcome
import Parlance.Proofs.Tree.RoundTrip

/-!
# The texts of groups

Keeping the texts of groups only adds them: the parser never looks at them, so it does the same
without, and the trees differ in nothing else. What is kept is the text that the group spans.
-/

namespace Parlance

namespace Node

mutual

/-- The tree without the texts of its groups. -/
def withoutContent : Node → Node
  | token name position length content leading => token name position length content leading
  | group name position length start stop _ leading trailing children =>
      group name position length start stop none leading trailing (withoutContentAll children)

/-- The trees without the texts of their groups. -/
def withoutContentAll : List Node → List Node
  | [] => []
  | node :: rest => node.withoutContent :: withoutContentAll rest

end

mutual

/-- The source text of a tree is made of tokens, markers and what was skipped. -/
theorem text_withoutContent : ∀ node : Node, node.withoutContent.text = node.text
  | token .. => rfl
  | group _ _ _ _ _ _ _ _ children => by
      simp only [withoutContent, text, textOfAll_withoutContentAll children]

theorem textOfAll_withoutContentAll : ∀ nodes : List Node,
    textOfAll (withoutContentAll nodes) = textOfAll nodes
  | [] => rfl
  | node :: rest => by
      simp only [withoutContentAll, textOfAll, text_withoutContent node,
        textOfAll_withoutContentAll rest]

end

theorem withoutContentAll_eq_map (nodes : List Node) :
    withoutContentAll nodes = nodes.map withoutContent := by
  induction nodes with
  | nil => rfl
  | cons node rest ih => rw [withoutContentAll, ih, List.map_cons]

theorem name_withoutContent (node : Node) : node.withoutContent.name = node.name := by
  cases node <;> rfl

theorem isToken_withoutContent (node : Node) : node.withoutContent.isToken = node.isToken := by
  cases node <;> rfl

theorem children_withoutContent (node : Node) :
    node.withoutContent.children = withoutContentAll node.children := by
  cases node <;> rfl

/-- A token keeps its text. -/
theorem withoutContent_of_isToken {node : Node} (isToken : node.isToken = true) :
    node.withoutContent = node := by
  cases node with
  | token => rfl
  | group => cases isToken

theorem withoutContent_withLeading (node : Node) (leading : Text) :
    (node.withLeading leading).withoutContent = node.withoutContent.withLeading leading := by
  cases node <;> rfl

theorem content?_withLeading (node : Node) (leading : Text) :
    (node.withLeading leading).content? = node.content? := by
  cases node <;> rfl

/-- No group at any depth has its text. -/
def KeepsNothing (tree : Node) : Prop :=
  ∀ node, tree.Contains node → node.isToken = false → node.content? = none

/-- Every group at any depth has the text that it spans, as every token does. -/
def KeepsSpans (tree : Node) : Prop :=
  ∀ node, tree.Contains node → node.content? = some node.span

/-- Every group at any depth has the part of the text at its place, and that is its source text
without what was skipped in front of it. -/
def KeepsTextsOf (tree : Node) (text : Text) : Prop :=
  ∀ node, tree.Contains node → node.isToken = false →
    ∃ content, node.content? = some content ∧
      text.between? node.position (node.position + node.length) = some content ∧
      node.text = node.leading ++ content

mutual

/-- A tree that has lost the texts of its groups keeps none. -/
theorem keepsNothing_withoutContent : ∀ node : Node, node.withoutContent.KeepsNothing
  | token .. => by
      intro node contains isGroup
      rcases contains_iff.1 contains with rfl | ⟨_, member, _⟩
      · cases isGroup
      · cases member
  | group _ _ _ _ _ _ _ _ children => by
      intro node contains isGroup
      rcases contains_iff.1 contains with rfl | ⟨child, member, contains⟩
      · rfl
      · exact keepsNothing_withoutContentAll children child member node contains isGroup

theorem keepsNothing_withoutContentAll : ∀ nodes : List Node,
    ∀ child ∈ withoutContentAll nodes, child.KeepsNothing
  | [] => by simp [withoutContentAll]
  | first :: rest => by
      intro child member
      rcases List.mem_cons.1 member with rfl | member
      · exact keepsNothing_withoutContent first
      · exact keepsNothing_withoutContentAll rest child member

end

theorem KeepsSpans.withLeading {tree : Node} (keeps : tree.KeepsSpans) (leading : Text) :
    (tree.withLeading leading).KeepsSpans := by
  intro node contains
  rcases contains_withLeading contains with rfl | contains
  · rw [content?_withLeading, span_withLeading]
    exact keeps tree .self
  · exact keeps node contains

end Node

/-! ### Two parses -/

/-- The closed group without the texts of the groups inside. -/
def Closed.withoutContent (closed : Closed) : Closed :=
  { closed with children := Node.withoutContentAll closed.children }

/-- The attempt without the texts of groups. -/
def Attempt.withoutContent : Attempt → Attempt
  | matched term node cursor => matched term node.withoutContent cursor
  | unmatched rejected => unmatched rejected

namespace Parsing

variable {parsing : Parsing} {inner other : GroupBody} {frame : Frame} {candidates : List TermId}
  {pending : Text} {cursor : Cursor}

/-- The same parse where groups do not keep their texts. -/
def keepingNothing (parsing : Parsing) : Parsing :=
  { parsing with options := { parsing.options with originalStrings := false } }

@[simp] theorem keepingNothing_grammar (parsing : Parsing) :
    parsing.keepingNothing.grammar = parsing.grammar := rfl

@[simp] theorem keepingNothing_size (parsing : Parsing) :
    parsing.keepingNothing.size = parsing.size := rfl

@[simp] theorem keepingNothing_backtrack (parsing : Parsing) :
    parsing.keepingNothing.options.backtrack = parsing.options.backtrack := rfl

/-- What the latter body gives is what the former one gives, without the texts of groups. -/
def Forgets (inner other : GroupBody) : Prop :=
  ∀ frame candidates pending cursor,
    (inner frame candidates pending cursor).map Closed.withoutContent =
      other frame candidates pending cursor

section

variable (forgets : Forgets inner other)
include forgets

theorem group_withoutContent (name : String) (marker : Text) (stop : Matcher)
    (subgroups : List TermId) (cursor : Cursor) :
    (parsing.group inner name marker stop subgroups cursor).map
        (fun read => (read.1.withoutContent, read.2)) =
      parsing.keepingNothing.group other name marker stop subgroups cursor := by
  rw [group, group, ← forgets]
  exact map_bind_eq fun closed => rfl

/-- Trying the candidates ends alike. -/
theorem tryCandidates_withoutContent (cursor : Cursor) (candidates : List TermId)
    (rejected : Option ParseError) :
    (parsing.tryCandidates inner cursor candidates rejected).map Attempt.withoutContent =
      parsing.keepingNothing.tryCandidates other cursor candidates rejected := by
  induction candidates generalizing rejected with
  | nil => rfl
  | cons id ids ih =>
      rw [tryCandidates, tryCandidates, keepingNothing_grammar]
      cases parsing.grammar.term? id with
      | none => exact ih rejected
      | some term =>
          dsimp only
          cases term.start.matchAt? cursor with
          | none => exact ih rejected
          | some marker =>
              dsimp only
              cases term.body with
              | token => rfl
              | group stop subgroups =>
                  dsimp only
                  rw [← group_withoutContent forgets, keepingNothing_backtrack]
                  cases parsing.group inner term.name marker stop subgroups cursor with
                  | ok read => rfl
                  | error error =>
                      cases parsing.options.backtrack with
                      | true => exact ih _
                      | false => rfl

/-- The same text is skipped. -/
theorem trySkip_keepingNothing (cursor : Cursor) :
    parsing.keepingNothing.trySkip other cursor = parsing.trySkip inner cursor := by
  rw [trySkip, trySkip, keepingNothing_grammar]
  cases parsing.grammar.aether.bind parsing.grammar.term? with
  | none => rfl
  | some term =>
      dsimp only
      cases term.start.matchAt? cursor with
      | none => rfl
      | some marker =>
          dsimp only
          cases term.body with
          | token => rfl
          | group stop subgroups =>
              dsimp only
              rw [← group_withoutContent forgets, keepingNothing_backtrack]
              cases parsing.group inner term.name marker stop subgroups cursor with
              | ok read => simp only [Except.map, Node.text_withoutContent]
              | error error => rfl

end

/-- However deep it looks, the parser does the same without the texts of groups. -/
theorem body_forgets (parsing : Parsing) (fuel : Nat) :
    Forgets (parsing.body fuel) (parsing.keepingNothing.body fuel) := by
  induction fuel with
  | zero => exact fun _ _ _ _ => rfl
  | succ fuel forgets =>
      intro frame candidates pending cursor
      rw [body, body, keepingNothing_size]
      split
      · cases frame.stop <;> rfl
      · rw [← tryCandidates_withoutContent forgets]
        refine map_bind_eq fun attempt => ?_
        cases attempt with
        | matched term node after =>
            dsimp only [Attempt.withoutContent]
            rw [← forgets]
            refine map_bind_eq fun rest => ?_
            simp only [pure, Except.pure, Except.map, Closed.withoutContent,
              Node.withoutContentAll, Node.withoutContent_withLeading]
        | unmatched rejected =>
            dsimp only [Attempt.withoutContent]
            cases frame.stop.bind (·.matchAt? cursor) with
            | some marker => rfl
            | none =>
                dsimp only
                rw [trySkip_keepingNothing forgets]
                cases parsing.trySkip (parsing.body fuel) cursor with
                | error error => rfl
                | ok skip =>
                    cases skip with
                    | some skip => exact forgets _ _ _ _
                    | none => cases rejected <;> rfl

theorem run_withoutContent (parsing : Parsing) :
    parsing.run.map Node.withoutContent = parsing.keepingNothing.run := by
  let frame : Frame := ⟨parsing.grammar.rootName, [], .start parsing.input, none⟩
  have forgets := body_forgets parsing (parsing.size + 1) frame parsing.grammar.root []
    (.start parsing.input)
  refine Eq.trans ?_ (congrArg (· >>= fun closed => pure (parsing.keepingNothing.node frame closed))
    forgets)
  exact map_bind_eq fun closed => rfl

/-! ### What is kept -/

/-- A group keeps as much of the text ahead of its start marker as it is long. -/
theorem content?_node (keeps : parsing.options.originalStrings = true) {closed : Closed}
    {span rest : Text} (ahead : frame.opened.ahead = some (span ++ rest))
    (length : (parsing.node frame closed).length = span.byteLength) :
    (parsing.node frame closed).content? = some span := by
  have content : (parsing.node frame closed).content? =
      (span ++ rest).takeBytes? (parsing.node frame closed).length := by
    simp [node, Node.content?, Node.length, keeps, ahead]
  rw [content, length, Text.takeBytes?_append]

/-- The body puts only trees into a group whose nodes have the texts that they span. -/
def KeepsSpans (inner : GroupBody) : Prop :=
  ∀ frame candidates before pending ahead closed,
    (∀ stop ∈ frame.stop, stop.FindsPrefixes) →
    inner frame candidates pending (.between (before ++ pending) ahead) = .ok closed →
    ∀ child ∈ closed.children, child.KeepsSpans

/-- What a term takes has the text that it spans, and so do the nodes inside. -/
theorem Takes.keepsSpans (prefixes : parsing.grammar.FindsPrefixes)
    (keeps : parsing.options.originalStrings = true) (accounts : inner.Accounts parsing.size)
    (inside : KeepsSpans inner) {id : TermId} {term : Term} {marker before ahead : Text}
    {node : Node} {after : Cursor} (named : parsing.grammar.term? id = some term)
    (found : term.start.match? ahead = some marker)
    (takes : parsing.Takes inner (.between before ahead) term marker node after) :
    node.KeepsSpans := by
  have reading := takes.readAt prefixes accounts named found
  obtain ⟨startFaithful, stopFaithful⟩ := prefixes term (Grammar.mem_terms_of_term? named)
  obtain ⟨behind, rfl⟩ := startFaithful.split found
  cases shape : term.body with
  | token =>
      simp only [Takes, shape] at takes
      obtain ⟨rfl, rfl⟩ := takes
      intro node contains
      rcases Node.contains_iff.1 contains with rfl | ⟨_, within, _⟩
      · rfl
      · cases within
  | group stop subgroups =>
      simp only [Takes, shape] at takes
      obtain ⟨closed, parsed, rfl, rfl⟩ := group_eq_ok_iff.1 takes
      rw [Cursor.advance_between, ← List.append_nil (before ++ marker)] at parsed
      intro node contains
      rcases Node.contains_iff.1 contains with rfl | ⟨child, within, contains⟩
      · obtain ⟨rest, split, _⟩ := reading.rest
        exact content?_node keeps (congrArg some split) reading.placed.length_eq
      · refine inside _ _ _ _ _ _ ?_ parsed child within node contains
        intro other same
        exact stopFaithful other (by simpa [Term.stop?, shape] using same)

/-- However deep it looks, the parser keeps the texts that groups span, if it keeps any. -/
theorem body_keepsSpans (prefixes : parsing.grammar.FindsPrefixes)
    (keeps : parsing.options.originalStrings = true) (fuel : Nat) :
    KeepsSpans (parsing.body fuel) := by
  induction fuel with
  | zero =>
      intro frame candidates before pending ahead closed _ done
      simp [body] at done
  | succ fuel inside =>
      intro frame candidates before pending ahead closed stopsFaithful done
      have accounts := body_accounts prefixes fuel
      cases body_succ_eq_ok_iff.1 done with
      | ends => simp
      | @child term node after rest _ matched continues =>
          obtain ⟨id, marker, named, found, takes⟩ := takes_of_tryCandidates matched
          have reading := takes.readAt prefixes accounts named found
          obtain ⟨behind, _, rfl⟩ := reading.rest
          rw [← List.append_nil (before ++ pending ++ node.span)] at continues
          intro child member
          rcases List.mem_cons.1 member with rfl | member
          · exact (takes.keepsSpans prefixes keeps accounts inside named found).withLeading pending
          · exact inside _ _ _ _ _ _ stopsFaithful continues child member
      | closes => simp
      | skips _ _ _ skipping continues =>
          obtain ⟨rest, _, rfl⟩ := trySkip_split prefixes accounts skipping
          rw [List.append_assoc before] at continues
          exact inside _ _ _ _ _ _ stopsFaithful continues

end Parsing

namespace Grammar

variable {grammar : Grammar} {text : Text}

/-- Whether the texts of groups are kept makes no other difference to a parse. -/
theorem parse_withoutContent (grammar : Grammar) (backtrack keeps : Bool) (text : Text) :
    (grammar.parse ⟨backtrack, keeps⟩ text).map Node.withoutContent =
      grammar.parse ⟨backtrack, false⟩ text :=
  Parsing.run_withoutContent ⟨grammar, ⟨backtrack, keeps⟩, text, text.byteLength⟩

/-- Where the texts of groups are kept, every node of a parse tree has the text that it spans. -/
theorem keepsSpans_of_parse (prefixes : grammar.FindsPrefixes) {backtrack : Bool} {tree : Node}
    (parsed : grammar.parse ⟨backtrack, true⟩ text = .ok tree) : tree.KeepsSpans := by
  obtain ⟨placed, whole⟩ := grammar.parse_placed prefixes parsed
  obtain ⟨closed, done, rfl⟩ := parse_eq_ok_iff_body.1 parsed
  intro node contains
  rcases Node.contains_iff.1 contains with rfl | ⟨child, member, contains⟩
  · rw [Node.text_eq] at whole
    have ahead := whole.symm.trans (List.append_nil _).symm
    exact Parsing.content?_node rfl (congrArg some ahead) placed.length_eq
  · exact Parsing.body_keepsSpans prefixes rfl _ _ _ [] [] _ _ (by simp) done child member node
      contains

/-- Where the texts of groups are kept, every group of a parse tree has the part of the source at
its place. -/
theorem keepsTextsOf_of_parse (prefixes : grammar.FindsPrefixes) {backtrack : Bool} {tree : Node}
    (parsed : grammar.parse ⟨backtrack, true⟩ text = .ok tree) : tree.KeepsTextsOf text := by
  obtain ⟨placed, whole⟩ := grammar.parse_placed prefixes parsed
  intro node contains _
  obtain ⟨before, after, split, nodePlaced⟩ := contains.placed placed
  rw [List.nil_append, whole] at split
  obtain ⟨span, cut, source⟩ := (nodePlaced.faithful after).spans
  obtain rfl : span = node.span := List.append_cancel_left (source.symm.trans (Node.text_eq node))
  exact ⟨node.span, keepsSpans_of_parse prefixes parsed node contains, split ▸ cut, source⟩

/-- Where the texts of groups are not kept, no group of a parse tree has one. -/
theorem keepsNothing_of_parse {backtrack : Bool} {tree : Node}
    (parsed : grammar.parse ⟨backtrack, false⟩ text = .ok tree) : tree.KeepsNothing := by
  have same := parse_withoutContent grammar backtrack false text
  rw [parsed] at same
  rw [← Except.ok.inj same]
  exact tree.keepsNothing_withoutContent

end Grammar

end Parlance
