import Parlance.Proofs.Tree.Round

/-!
# The nodes of a tree

A tree contains itself and the nodes at any depth inside it. Whatever the options, every node that
the parser puts into a tree is made by a term of the grammar: a token is a match of a term, and a
group stands between matches of the markers of a term.
-/

namespace Parlance

namespace Node

/-- The node is the tree itself or a node at any depth inside it. -/
inductive Contains (tree : Node) : Node → Prop where
  | self : Contains tree tree
  | child {node child : Node} (outer : Contains tree node) (member : child ∈ node.children) :
      Contains tree child

theorem Contains.trans {tree node inner : Node} (outer : tree.Contains node)
    (inside : node.Contains inner) : tree.Contains inner := by
  induction inside with
  | self => exact outer
  | child _ member ih => exact .child ih member

theorem contains_iff {tree node : Node} :
    tree.Contains node ↔ node = tree ∨ ∃ child ∈ tree.children, child.Contains node := by
  constructor
  · intro contains
    induction contains with
    | self => exact .inl rfl
    | @child outer inner _ member ih =>
        rcases ih with rfl | ⟨first, among, contains⟩
        · exact .inr ⟨inner, member, .self⟩
        · exact .inr ⟨first, among, .child contains member⟩
  · rintro (rfl | ⟨child, member, contains⟩)
    · exact .self
    · exact (Contains.child .self member).trans contains

theorem contains_withLeading {tree node : Node} {leading : Text}
    (contains : (tree.withLeading leading).Contains node) :
    node = tree.withLeading leading ∨ tree.Contains node := by
  rcases contains_iff.1 contains with rfl | ⟨child, member, inside⟩
  · exact .inl rfl
  · refine .inr ((Contains.child .self ?_).trans inside)
    cases tree <;> exact member

mutual

/-- The tree and all nodes inside it. -/
def nodes : Node → List Node
  | token name position length content leading => [token name position length content leading]
  | group name position length start stop content leading trailing children =>
      group name position length start stop content leading trailing children ::
        nodesOfAll children

/-- The nodes and all nodes inside them. -/
def nodesOfAll : List Node → List Node
  | [] => []
  | node :: rest => node.nodes ++ nodesOfAll rest

end

theorem mem_nodesOfAll {nodes : List Node} {node : Node} :
    node ∈ nodesOfAll nodes ↔ ∃ tree ∈ nodes, node ∈ tree.nodes := by
  induction nodes with
  | nil => simp [nodesOfAll]
  | cons first rest ih => simp [nodesOfAll, ih]

theorem mem_nodes_self (tree : Node) : tree ∈ tree.nodes := by
  cases tree <;> simp [nodes]

theorem sizeOf_lt_of_mem_children {node child : Node} (member : child ∈ node.children) :
    sizeOf child < sizeOf node := by
  cases node with
  | token => cases member
  | group name position length start stop content leading trailing children =>
      have smaller := List.sizeOf_lt_of_mem member
      simp only [group.sizeOf_spec]
      simp only [Node.children] at smaller
      omega

/-- Whatever a tree contains is among its nodes. -/
theorem Contains.mem_nodes {tree node : Node} (contains : tree.Contains node) :
    node ∈ tree.nodes := by
  rcases contains_iff.1 contains with rfl | ⟨child, member, inside⟩
  · exact node.mem_nodes_self
  · have smaller := sizeOf_lt_of_mem_children member
    have among := inside.mem_nodes
    cases tree with
    | token => cases member
    | group => exact List.mem_cons_of_mem _ (mem_nodesOfAll.2 ⟨child, member, among⟩)
termination_by sizeOf tree

end Node

/-- The node is made from a match of a token of the grammar. -/
def Grammar.Matched (grammar : Grammar) (node : Node) : Prop :=
  ∃ term ∈ grammar.terms, term.body = .token ∧ node.name = term.name ∧
    ∃ ahead marker, term.start.match? ahead = some marker ∧ node.content? = some marker

/-- All tokens that the node contains are matches. -/
def Grammar.MatchesTokens (grammar : Grammar) (tree : Node) : Prop :=
  ∀ node, tree.Contains node → node.isToken = true → grammar.Matched node

/-- The node is made by a term of the grammar: a token from a match of its start marker, a group
from matches of both its markers. -/
inductive Grammar.Makes (grammar : Grammar) : Node → Prop where
  | token {term ahead marker position length leading} (member : term ∈ grammar.terms)
      (shape : term.body = .token) (found : term.start.match? ahead = some marker) :
      Makes grammar (.token term.name position length marker leading)
  | group {term stop subgroups ahead marker behind closing position length content leading trailing
        children} (member : term ∈ grammar.terms) (shape : term.body = .group stop subgroups)
      (opens : term.start.match? ahead = some marker)
      (closes : stop.match? behind = some closing) :
      Makes grammar (.group term.name position length marker closing content leading trailing children)

/-- All nodes that the tree contains are made by terms. -/
def Grammar.MakesAll (grammar : Grammar) (tree : Node) : Prop :=
  ∀ node, tree.Contains node → grammar.Makes node

namespace Grammar

variable {grammar : Grammar} {node tree : Node} {leading : Text}

theorem Makes.withLeading (makes : grammar.Makes node) : grammar.Makes (node.withLeading leading) := by
  cases makes with
  | token member shape found => exact .token member shape found
  | group member shape opens closes => exact .group member shape opens closes

theorem MakesAll.withLeading (makes : grammar.MakesAll tree) :
    grammar.MakesAll (tree.withLeading leading) := by
  intro node contains
  rcases Node.contains_withLeading contains with rfl | contains
  · exact (makes tree .self).withLeading
  · exact makes node contains

/-- A token that a term makes is a match of it. -/
theorem Makes.matched (makes : grammar.Makes node) (isToken : node.isToken = true) :
    grammar.Matched node := by
  cases makes with
  | @token term ahead marker position length leading member shape found =>
      exact ⟨term, member, shape, rfl, ahead, marker, found, rfl⟩
  | group => cases isToken

end Grammar

namespace Parsing

variable {parsing : Parsing} {inner : GroupBody} {cursor : Cursor}

/-- The body puts into a group only what terms make, and closes it with a match of its marker. -/
def MakesBodies (parsing : Parsing) (inner : GroupBody) : Prop :=
  ∀ frame candidates pending cursor closed, inner frame candidates pending cursor = .ok closed →
    (∀ child ∈ closed.children, parsing.grammar.MakesAll child) ∧
      ∀ stop ∈ frame.stop, ∃ ahead, stop.match? ahead = some closed.marker

/-- What a term takes is made by it, and so are the nodes inside. -/
theorem Takes.makesAll {id : TermId} {term : Term} {marker : Text} {node : Node} {after : Cursor}
    (inside : parsing.MakesBodies inner) (named : parsing.grammar.term? id = some term)
    (found : term.start.matchAt? cursor = some marker)
    (takes : parsing.Takes inner cursor term marker node after) : parsing.grammar.MakesAll node := by
  have member := Grammar.mem_terms_of_term? named
  obtain ⟨ahead, _, matched⟩ := Option.bind_eq_some_iff.1 found
  cases shape : term.body with
  | token =>
      simp only [Takes, shape] at takes
      obtain ⟨rfl, rfl⟩ := takes
      intro node contains
      rcases Node.contains_iff.1 contains with rfl | ⟨_, within, _⟩
      · exact .token member shape matched
      · cases within
  | group stop subgroups =>
      simp only [Takes, shape] at takes
      obtain ⟨closed, parsed, rfl, rfl⟩ := group_eq_ok_iff.1 takes
      obtain ⟨made, closes⟩ := inside _ _ _ _ _ parsed
      obtain ⟨behind, ends⟩ := closes stop rfl
      intro node contains
      rcases Node.contains_iff.1 contains with rfl | ⟨child, within, contains⟩
      · exact .group member shape matched ends
      · exact made child within node contains

/-- However deep it looks, the parser makes nodes only by terms. -/
theorem body_makes (fuel : Nat) : parsing.MakesBodies (parsing.body fuel) := by
  induction fuel with
  | zero =>
      intro frame candidates pending cursor closed done
      simp [body] at done
  | succ fuel inside =>
      intro frame candidates pending cursor closed done
      cases body_succ_eq_ok_iff.1 done with
      | ends _ root => simp [root]
      | child _ matched continues =>
          obtain ⟨id, marker, named, found, takes⟩ := takes_of_tryCandidates matched
          obtain ⟨made, closes⟩ := inside _ _ _ _ _ continues
          refine ⟨fun child member => ?_, closes⟩
          rcases List.mem_cons.1 member with rfl | member
          · exact (takes.makesAll inside named found).withLeading
          · exact made child member
      | closes _ _ stops ended =>
          obtain ⟨ahead, _, matched⟩ := Option.bind_eq_some_iff.1 ended
          refine ⟨by simp, fun stop same => ⟨ahead, ?_⟩⟩
          cases stops.symm.trans same
          exact matched
      | skips _ _ _ _ continues => exact inside _ _ _ _ _ continues

end Parsing

namespace Grammar

variable {grammar : Grammar} {options : ParseOptions} {text : Text} {tree : Node}

/-- With any options, all nodes inside a parse tree are made by terms of the grammar. -/
theorem parse_makesAll (parsed : grammar.parse options text = .ok tree) :
    ∀ child ∈ tree.children, grammar.MakesAll child := by
  obtain ⟨closed, done, rfl⟩ := parse_eq_ok_iff_body.1 parsed
  exact (Parsing.body_makes _ _ _ _ _ _ done).1

/-- With any options, all tokens of a parse tree are matches of tokens of the grammar. -/
theorem parse_matchesTokens (parsed : grammar.parse options text = .ok tree) :
    grammar.MatchesTokens tree := by
  intro node contains isToken
  rcases Node.contains_iff.1 contains with rfl | ⟨child, member, contains⟩
  · obtain ⟨closed, _, rfl⟩ := parse_eq_ok_iff_body.1 parsed
    cases isToken
  · exact (parse_makesAll parsed child member node contains).matched isToken

end Grammar

end Parlance
