import Parlance.Proofs.Arithmetic.Calling

/-!
# Spans

The origin of an expression names a part of the source. The origins of its direct parts lie inside
it, in the order of the source and apart from each other, and a symbol or a literal has that of its
token. Whatever is built from nodes in a row stays between the first and the last of them, so what
is built from the nodes in front of another node ends before that node starts.
-/

namespace Parlance

/-! ### The parts of an expression -/

namespace Expr

/-- The direct parts of the expression, in the order of the source. -/
def children : Expr → List Expr
  | symbol _ _ => []
  | literal _ _ => []
  | member _ object _ => [object]
  | index _ object key => [object, key]
  | call _ callee arguments => [callee, arguments]
  | callEmpty _ callee => [callee]
  | unary _ _ operand => [operand]
  | stepAfter _ _ operand => [operand]
  | binary _ _ left right => [left, right]
  | ternary _ condition truthy falsy => [condition, truthy, falsy]
  | wrapper _ inner => [inner]

/-- The expression is the whole itself or a part of it at any depth. -/
inductive Contains (whole : Expr) : Expr → Prop where
  | self : Contains whole whole
  | child {outer inner : Expr} (within : Contains whole outer) (member : inner ∈ outer.children) :
      Contains whole inner

/-- The expression and all its parts have the property. -/
def Every (holds : Expr → Prop) (expr : Expr) : Prop := ∀ part, expr.Contains part → holds part

variable {holds weaker : Expr → Prop} {expr : Expr}

theorem Every.of_children (here : holds expr)
    (children : ∀ child ∈ expr.children, child.Every holds) : expr.Every holds := by
  have inside (part : Expr) (contains : expr.Contains part) :
      part = expr ∨ ∃ child ∈ expr.children, child.Contains part := by
    induction contains with
    | self => exact .inl rfl
    | @child outer inner _ member ih =>
        rcases ih with rfl | ⟨child, among, contains⟩
        · exact .inr ⟨inner, member, .self⟩
        · exact .inr ⟨child, among, .child contains member⟩
  intro part contains
  rcases inside part contains with rfl | ⟨child, member, contains⟩
  · exact here
  · exact children child member part contains

theorem Every.mono (every : expr.Every holds) (weakens : ∀ part, holds part → weaker part) :
    expr.Every weaker :=
  fun part contains => weakens part (every part contains)

end Expr

/-! ### Origins inside each other -/

/-- The origin is not empty, starts at the offset or after it, and stops at the other or before. -/
structure Origin.Within (origin : Origin) (start stop : Nat) : Prop where
  nonempty : 0 < origin.length
  starts : start ≤ origin.position
  stops : origin.stop ≤ stop

namespace Origin

variable {first last inner outer : Origin} {start middle stop earlier later : Nat}

theorem position_le_stop (origin : Origin) : origin.position ≤ origin.stop := Nat.le_add_right _ _

theorem Within.mono (within : inner.Within start stop) (starts : earlier ≤ start)
    (stops : stop ≤ later) : inner.Within earlier later :=
  ⟨within.nonempty, Nat.le_trans starts within.starts, Nat.le_trans within.stops stops⟩

theorem Within.trans (within : inner.Within outer.position outer.stop)
    (between : outer.Within start stop) : inner.Within start stop :=
  within.mono between.starts between.stops

theorem first_within_spanning (name : String) (last : Origin) (within : first.Within start stop) :
    first.Within (spanning name first last).position (spanning name first last).stop where
  nonempty := within.nonempty
  starts := Nat.le_refl _
  stops := by
    rw [stop_spanning]
    exact Nat.le_max_left _ _

section

variable (name : String) (former : first.Within start middle) (latter : last.Within middle stop)
include former latter

/-- The span of what comes one after the other reaches to the end of the last. -/
theorem stop_spanning_of_within : (spanning name first last).stop = last.stop := by
  have ordered := Nat.le_trans (Nat.le_trans former.stops latter.starts) last.position_le_stop
  rw [stop_spanning, Nat.max_eq_right ordered]

theorem within_spanning : (spanning name first last).Within start stop where
  nonempty := by
    have nonempty := former.nonempty
    simp only [spanning]
    omega
  starts := former.starts
  stops := by
    rw [stop_spanning_of_within name former latter]
    exact latter.stops

theorem last_within_spanning :
    last.Within (spanning name first last).position (spanning name first last).stop where
  nonempty := latter.nonempty
  starts := Nat.le_trans first.position_le_stop (Nat.le_trans former.stops latter.starts)
  stops := by
    rw [stop_spanning]
    exact Nat.le_max_right _ _

end

end Origin

namespace Arithmetic

/-! ### What is built from nodes in a row -/

/-- The direct parts of the expression lie inside it, one behind the other, and an expression without
parts is a literal or a symbol made from a token of the tree. -/
structure Nests (tree : Node) (expr : Expr) : Prop where
  covers : ∀ child ∈ expr.children, child.origin.Within expr.origin.position expr.origin.stop
  ordered : expr.children.Pairwise fun former later => former.origin.stop ≤ later.origin.position
  token : expr.children = [] →
    ∃ token, tree.Contains token ∧ token.isToken = true ∧ Atom token expr

/-- The expression lies between the offsets, and its parts nest at every depth. -/
structure NestsWithin (tree : Node) (expr : Expr) (start stop : Nat) : Prop where
  within : expr.origin.Within start stop
  nests : expr.Every (Nests tree)

/-- The node is a part of the tree, and what it holds nests inside it. -/
structure Spans (tree node : Node) : Prop where
  contains : tree.Contains node
  nonempty : 0 < node.length
  inside : ∀ inner, compileInside node = .ok inner →
    NestsWithin tree inner node.position node.stop

/-- The nodes stand one behind the other between the offsets. -/
structure InRow (tree : Node) (nodes : List Node) (start stop : Nat) : Prop where
  spans : ∀ node ∈ nodes, Spans tree node
  between : ∀ node ∈ nodes, start ≤ node.position ∧ node.stop ≤ stop
  ordered : nodes.Pairwise fun former later => former.stop ≤ later.position

variable {tree node : Node} {nodes others : List Node} {made value inner latter : Expr}
  {start middle stop : Nat}

theorem Spans.within (spans : Spans tree node) : (originOf node).Within node.position node.stop :=
  ⟨spans.nonempty, Nat.le_refl _, Nat.le_refl _⟩

/-- Every node of a row has those before it in front of it and those after it behind it. -/
theorem InRow.split (row : InRow tree (nodes ++ node :: others) start stop) :
    InRow tree nodes start node.position ∧
      (Spans tree node ∧ start ≤ node.position ∧ node.stop ≤ stop) ∧
      InRow tree others node.stop stop := by
  obtain ⟨orderedFormer, orderedLatter, apart⟩ := List.pairwise_append.1 row.ordered
  obtain ⟨behind, orderedOthers⟩ := List.pairwise_cons.1 orderedLatter
  refine ⟨⟨fun other member => ?_, fun other member => ?_, orderedFormer⟩,
    ⟨row.spans node (by simp), row.between node (by simp)⟩,
    ⟨fun other member => ?_, fun other member => ?_, orderedOthers⟩⟩
  · exact row.spans other (by simp [member])
  · exact ⟨(row.between other (by simp [member])).1, apart other member node (by simp)⟩
  · exact row.spans other (by simp [member])
  · exact ⟨behind other member, (row.between other (by simp [member])).2⟩

/-- The first node of a row has those after it behind it. -/
theorem InRow.uncons (row : InRow tree (node :: others) start stop) :
    (Spans tree node ∧ start ≤ node.position ∧ node.stop ≤ stop) ∧
      InRow tree others node.stop stop := by
  have whole : InRow tree ([] ++ node :: others) start stop := row
  exact whole.split.2

theorem nests_token (holdsNone : made.children = []) (spans : Spans tree node)
    (isToken : node.isToken = true) (atom : Atom node made) : made.Every (Nests tree) := by
  refine .of_children ⟨?_, ?_, fun _ => ⟨node, spans.contains, isToken, atom⟩⟩ ?_ <;>
    simp [holdsNone]

/-- An expression with one part nests if the part does and lies inside it. -/
theorem nests_single (single : made.children = [inner])
    (covers : inner.origin.Within made.origin.position made.origin.stop)
    (nests : inner.Every (Nests tree)) : made.Every (Nests tree) := by
  refine .of_children ⟨?_, ?_, ?_⟩ ?_ <;> simp [single, covers, nests]

/-- An expression nests if its origin spans from the first part to what holds all others. -/
theorem nestsWithin_parts {name : String} {last : Origin} {parts : List Expr}
    (children : made.children = inner :: parts)
    (spanning : made.origin = .spanning name inner.origin last)
    (nests : NestsWithin tree inner start middle) (within : last.Within middle stop)
    (nestsParts : ∀ part ∈ parts, NestsWithin tree part last.position last.stop)
    (ordered : parts.Pairwise fun former later => former.origin.stop ≤ later.origin.position) :
    NestsWithin tree made start stop := by
  have covers := Origin.first_within_spanning name last nests.within
  have covering := Origin.last_within_spanning name nests.within within
  rw [← spanning] at covers covering
  refine ⟨?_, .of_children ⟨?_, ?_, ?_⟩ ?_⟩
  · rw [spanning]
    exact Origin.within_spanning name nests.within within
  · rw [children]
    exact List.forall_mem_cons.2 ⟨covers, fun part member =>
      (nestsParts part member).within.trans covering⟩
  · rw [children]
    exact List.pairwise_cons.2 ⟨fun part member => Nat.le_trans nests.within.stops
      (Nat.le_trans within.starts (nestsParts part member).within.starts), ordered⟩
  · simp [children]
  · rw [children]
    exact List.forall_mem_cons.2 ⟨nests.nests, fun part member => (nestsParts part member).nests⟩

/-- Around a wrapper there is no other. -/
theorem Spans.wrap (spans : Spans tree node) (compiled : compileInside node = .ok inner) :
    NestsWithin tree (inner.wrap (originOf node)) node.position node.stop := by
  have nests := spans.inside inner compiled
  have wrapped : NestsWithin tree (.wrapper (originOf node) inner) node.position node.stop :=
    ⟨spans.within, nests_single rfl nests.within nests.nests⟩
  cases inner with
  | wrapper => exact nests
  | _ => exact wrapped

theorem Atom.nestsWithin (atom : Atom node made) (spans : Spans tree node) :
    NestsWithin tree made node.position node.stop := by
  cases atom with
  | number named reads => exact ⟨spans.within, nests_token rfl spans named.1 (.number named reads)⟩
  | string named reads => exact ⟨spans.within, nests_token rfl spans named.1 (.string named reads)⟩
  | identifier named => exact ⟨spans.within, nests_token rfl spans named.1 (.identifier named)⟩
  | paren _ compiled => exact spans.wrap compiled

theorem NestsWithin.mono {earlier later : Nat} (nests : NestsWithin tree made start stop)
    (starts : earlier ≤ start) (stops : stop ≤ later) : NestsWithin tree made earlier later :=
  ⟨nests.within.mono starts stops, nests.nests⟩

theorem NestsWithin.self (nests : NestsWithin tree made start stop) :
    NestsWithin tree made made.origin.position made.origin.stop :=
  ⟨⟨nests.within.nonempty, Nat.le_refl _, Nat.le_refl _⟩, nests.nests⟩

/-- A value is in front of what links to it. -/
theorem Link.nestsWithin (link : Link value others made)
    (row : InRow tree (nodes ++ others) start stop)
    (former : ∀ {middle}, InRow tree nodes start middle → NestsWithin tree value start middle) :
    NestsWithin tree made start stop := by
  cases link with
  | @member dot property =>
      obtain ⟨before, _, behind⟩ := row.split
      obtain ⟨⟨spans, apart, stops⟩, _⟩ := behind.uncons
      have within := spans.within.mono (Nat.le_trans (originOf dot).position_le_stop apart) stops
      exact nestsWithin_parts rfl rfl (former before) within (by simp) .nil
  | callEmpty =>
      obtain ⟨before, ⟨spans, _, stops⟩, _⟩ := row.split
      have within := spans.within.mono (Nat.le_refl _) stops
      exact nestsWithin_parts rfl rfl (former before) within (by simp) .nil
  | call _ _ compiled | index _ compiled =>
      obtain ⟨before, ⟨spans, _, stops⟩, _⟩ := row.split
      have within := spans.within.mono (Nat.le_refl _) stops
      refine nestsWithin_parts rfl rfl (former before) within ?_ (List.pairwise_singleton _ _)
      exact List.forall_mem_singleton.2 (spans.inside _ compiled)

/-- What nodes in a row build lies between the first and the last of them, and its parts nest. -/
theorem Builds.nestsWithin (builds : Builds nodes made) (row : InRow tree nodes start stop) :
    NestsWithin tree made start stop := by
  induction builds generalizing start stop with
  | @atom node made atom =>
      obtain ⟨⟨spans, starts, stops⟩, _⟩ := row.uncons
      exact (atom.nestsWithin spans).mono starts stops
  | link _ link ih => exact link.nestsWithin row ih
  | step _ _ _ ih =>
      obtain ⟨before, ⟨spans, _, stops⟩, _⟩ := row.split
      have within := spans.within.mono (Nat.le_refl _) stops
      exact nestsWithin_parts rfl rfl (ih before) within (by simp) .nil
  | unary _ _ _ ih =>
      obtain ⟨⟨spans, starts, _⟩, behind⟩ := row.uncons
      have nests := ih behind
      have within := spans.within.mono starts (Nat.le_refl _)
      exact ⟨Origin.within_spanning _ within nests.within,
        nests_single rfl (Origin.last_within_spanning _ within nests.within) nests.nests⟩
  | @binary _ _ node _ _ _ _ _ _ ihLeft ihRight =>
      obtain ⟨before, _, behind⟩ := row.split
      have latter := ihRight behind
      have within := latter.within.mono (originOf node).position_le_stop (Nat.le_refl _)
      refine nestsWithin_parts rfl rfl (ihLeft before) within ?_ (List.pairwise_singleton _ _)
      exact List.forall_mem_singleton.2 latter.self
  | @ternary _ _ question _ truthy colon _ falsy _ _ _ _ _ ih ihTruthy ihFalsy =>
      obtain ⟨before, _, branches⟩ := row.split
      obtain ⟨between, _, behind⟩ := branches.split
      have former := ihTruthy between
      have latter := (ihFalsy behind).mono (originOf colon).position_le_stop (Nat.le_refl _)
      -- The branches have a span of their own, and the condition is in front of it.
      have within := (Origin.within_spanning operatorName former.within latter.within).mono
        (originOf question).position_le_stop (Nat.le_refl _)
      have first := Origin.first_within_spanning operatorName falsy.origin former.within
      have last := Origin.last_within_spanning operatorName former.within latter.within
      refine nestsWithin_parts rfl rfl (ih before) within ?_ ?_
      · exact List.forall_mem_cons.2 ⟨⟨first, former.nests⟩,
          List.forall_mem_singleton.2 ⟨last, latter.nests⟩⟩
      · exact List.pairwise_pair.2 (Nat.le_trans former.within.stops latter.within.starts)

/-! ### Sources -/

theorem Nests.of_contains {child : Node} {expr : Expr} (contains : tree.Contains child)
    (nests : Nests child expr) : Nests tree expr where
  covers := nests.covers
  ordered := nests.ordered
  token holdsNone := by
    obtain ⟨token, within, isToken, atom⟩ := nests.token holdsNone
    exact ⟨token, contains.trans within, isToken, atom⟩

/-- What compiles from the inside of a node nests between its ends. -/
theorem Parsed.nestsWithin (parsed : Parsed node) (compiled : compileInside node = .ok made) :
    NestsWithin node made node.position node.stop := by
  revert parsed
  refine compileInside_induction ?_ compiled
  intro node made builds inside parsed
  refine builds.nestsWithin ⟨fun child member => ?_, fun child member => ?_, parsed.ordered⟩
  · have contains : node.Contains child := .child .self member
    refine ⟨contains, (parsed.child_within member).1, fun inner compiled => ?_⟩
    obtain ⟨within, nests⟩ := inside child member inner compiled (parsed.part member)
    exact ⟨within, nests.mono fun part => Nests.of_contains contains⟩
  · obtain ⟨_, starts, stops⟩ := parsed.child_within member
    exact ⟨starts, by omega⟩

/-- Every part of an expression that nests between the offsets lies between them. -/
theorem NestsWithin.every (nests : NestsWithin tree made start stop) :
    made.Every fun part => part.origin.Within start stop := by
  intro part contains
  induction contains with
  | self => exact nests.within
  | child outer member ih => exact ((nests.nests _ outer).covers _ member).trans ih

/-- The expression spans a part of the source that is not empty, and its direct parts are found
inside that part, one behind the other. A literal or a symbol has the origin of the token that it is
made from, which is what the source has there. -/
structure NestsIn (source : Text) (tree : Node) (expr : Expr) : Prop where
  within : expr.origin.Within 0 source.byteLength
  covers : ∀ child ∈ expr.children, child.origin.Within expr.origin.position expr.origin.stop
  ordered : expr.children.Pairwise fun former later => former.origin.stop ≤ later.origin.position
  token : expr.children = [] → ∃ token, tree.Contains token ∧ token.isToken = true ∧
    Atom token expr ∧ expr.origin = originOf token ∧
    source.between? expr.origin.position expr.origin.stop = some (textOf token)

theorem Atom.origin_eq (isToken : node.isToken = true) (atom : Atom node made) :
    made.origin = originOf node := by
  cases atom with
  | paren named =>
      rw [named.1] at isToken
      cases isToken
  | _ => rfl

/-- A token of a parse tree shows the text that stands in its place. -/
theorem between?_of_contains {source : Text} (parsed : grammar.parse .plain source = .ok tree)
    (contains : tree.Contains node) (isToken : node.isToken = true) :
    source.between? node.position node.stop = some (textOf node) := by
  obtain ⟨span, found, text_eq⟩ :=
    ((Grammar.parse_faithful.2 grammar_findsPrefixes parsed).2 node contains).spans
  rw [Node.stop, found]
  cases node with
  | token => simpa [Node.text, Node.leading, textOf, Node.content?] using text_eq.symm
  | group => cases isToken

/-- Whatever compiles from a source nests in it at every depth. -/
theorem nestsIn_of_compile {source : Text} {made : Expr} (compiled : compile source = .ok made) :
    ∃ tree, grammar.parse .plain source = .ok tree ∧ made.Every (NestsIn source tree) := by
  unfold compile at compiled
  split at compiled
  · rename_i tree parsed
    have nests := (parsed_of_parse parsed).nestsWithin compiled
    obtain ⟨placed, whole⟩ := Grammar.parse_placed grammar_findsPrefixes parsed
    have ends : tree.stop = source.byteLength := by
      rw [Node.stop, placed.stop_eq, List.nil_append, whole]
    refine ⟨tree, parsed, fun part contains => ?_⟩
    have here := nests.nests part contains
    refine ⟨?_, here.covers, here.ordered, fun holdsNone => ?_⟩
    · rw [← ends]
      exact (nests.every part contains).mono (Nat.zero_le _) (Nat.le_refl _)
    · obtain ⟨token, within, isToken, atom⟩ := here.token holdsNone
      have origin_eq := atom.origin_eq isToken
      refine ⟨token, within, isToken, atom, origin_eq, ?_⟩
      rw [origin_eq]
      exact between?_of_contains parsed within isToken
  · cases compiled

/-- The length of a span is an exact difference. Whatever compiles from a source nests in it at every
depth. -/
theorem origins_nest :
    (∀ (name : String) (first last : Origin), ((Origin.spanning name first last).length : Int) =
      max (first.stop : Int) last.stop - first.position) ∧
    ∀ {source : Text} {made : Expr}, compile source = .ok made →
      ∃ tree, grammar.parse .plain source = .ok tree ∧ made.Every (NestsIn source tree) := by
  constructor
  · intro name first last
    have ordered := Nat.le_trans first.position_le_stop (Nat.le_max_left first.stop last.stop)
    have stop_eq := Origin.stop_spanning name first last
    simp only [Origin.stop, Origin.spanning] at *
    omega
  · exact nestsIn_of_compile

/-- A ternary with a call, an index, a doubled parenthesis and a string of a character of two
bytes. -/
theorem origins_nest_ternary :
    ∃ made, compile " 'é' ? f(((a)), b) : -c[0].d++ ".toList = .ok made ∧
      ∃ tree, grammar.parse .plain " 'é' ? f(((a)), b) : -c[0].d++ ".toList = .ok tree ∧
        made.Every (NestsIn " 'é' ? f(((a)), b) : -c[0].d++ ".toList tree) := by
  have succeeds : (compile " 'é' ? f(((a)), b) : -c[0].d++ ".toList).isOk = true := by
    decide +kernel
  cases compiled : compile " 'é' ? f(((a)), b) : -c[0].d++ ".toList with
  | error fault =>
      rw [compiled] at succeeds
      cases succeeds
  | ok made => exact ⟨made, rfl, origins_nest.2 compiled⟩

end Arithmetic

end Parlance
