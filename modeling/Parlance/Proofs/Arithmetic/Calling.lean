import Parlance.Proofs.Arithmetic.Building
import Parlance.Proofs.Arithmetic.Reading
import Parlance.Proofs.Tree.RoundTrip

/-!
# The calls of a source

The calls of an expression and the calls of a tree are listed in the order in which they close: first
those of what is called, then those among the arguments, then the call itself. An expression that is
compiled from a source has exactly the calls of the tree in this order, each with the arguments that its
brackets hold and with an origin that ends behind its closing parenthesis.
-/

namespace Parlance

/-- Where what has this origin ends. -/
def Origin.stop (origin : Origin) : Nat := origin.position + origin.length

@[simp] theorem Origin.stop_spanning (name : String) (first last : Origin) :
    (spanning name first last).stop = max first.stop last.stop := by
  simp only [spanning, stop]
  omega

namespace Node

/-- Where the node ends. -/
def stop (node : Node) : Nat := node.position + node.length

@[simp] theorem stop_originOf (node : Node) : (Arithmetic.originOf node).stop = node.stop := rfl

/-- Whether the node is the brackets of a call. -/
def isCall (node : Node) : Bool := !node.isToken && node.name == "call"

theorem isCall_iff {node : Node} : node.isCall = true ↔ node.IsGroupOf "call" := by
  simp [isCall, IsGroupOf]

mutual

/-- The calls at any depth inside the node, in the order in which they close. -/
def calls : Node → List Node
  | token .. => []
  | group _ _ _ _ _ _ _ _ children => callsOfAll children

/-- The calls among the nodes and inside them, in the order in which they close. -/
def callsOfAll : List Node → List Node
  | [] => []
  | node :: rest => node.calls ++ (if node.isCall then [node] else []) ++ callsOfAll rest

end

theorem calls_eq (node : Node) : node.calls = callsOfAll node.children := by
  cases node <;> rfl

/-- The calls inside the node and then the node, if it is one. -/
def closings (node : Node) : List Node := node.calls ++ if node.isCall then [node] else []

theorem callsOfAll_eq_flatMap (nodes : List Node) : callsOfAll nodes = nodes.flatMap closings := by
  induction nodes with
  | nil => rfl
  | cons node rest ih => rw [callsOfAll, ih, List.flatMap_cons, closings]

@[simp] theorem callsOfAll_append (nodes others : List Node) :
    callsOfAll (nodes ++ others) = callsOfAll nodes ++ callsOfAll others := by
  simp [callsOfAll_eq_flatMap]

@[simp] theorem callsOfAll_cons (node : Node) (rest : List Node) :
    callsOfAll (node :: rest) = node.closings ++ callsOfAll rest := rfl

@[simp] theorem callsOfAll_nil : callsOfAll [] = [] := rfl

theorem closings_of_isCall {node : Node} (isCall : node.IsGroupOf "call") :
    node.closings = callsOfAll node.children ++ [node] := by
  rw [closings, if_pos (isCall_iff.2 isCall), calls_eq]

theorem closings_of_other {node : Node} (other : node.name ≠ "call") :
    node.closings = callsOfAll node.children := by
  rw [closings, if_neg, calls_eq, List.append_nil]
  exact fun call => other (isCall_iff.1 call).2

theorem closings_of_isToken {node : Node} (isToken : node.isToken = true) : node.closings = [] := by
  cases node with
  | token => simp [closings, calls, isCall, Node.isToken]
  | group => cases isToken

/-- The calls inside a node are the groups of calls that it contains, apart from itself. -/
theorem mem_calls_iff {tree inner : Node} :
    inner ∈ tree.calls ↔ (∃ child ∈ tree.children, child.Contains inner) ∧ inner.IsGroupOf "call" := by
  rw [calls_eq, callsOfAll_eq_flatMap, List.mem_flatMap]
  constructor
  · rintro ⟨child, member, among⟩
    rcases List.mem_append.1 among with inside | self
    · have smaller := sizeOf_lt_of_mem_children member
      obtain ⟨⟨grandchild, within, contains⟩, isCall⟩ := mem_calls_iff.1 inside
      exact ⟨⟨child, member, (Contains.child .self within).trans contains⟩, isCall⟩
    · split at self
      · rename_i isCall
        rw [List.mem_singleton.1 self]
        exact ⟨⟨child, member, .self⟩, isCall_iff.1 isCall⟩
      · cases self
  · rintro ⟨⟨child, member, contains⟩, isCall⟩
    refine ⟨child, member, ?_⟩
    rw [closings]
    rcases contains_iff.1 contains with rfl | inside
    · simp [isCall_iff.2 isCall]
    · have smaller := sizeOf_lt_of_mem_children member
      exact List.mem_append_left _ (mem_calls_iff.2 ⟨inside, isCall⟩)
termination_by sizeOf tree

end Node

/-- The calls of the expression, in the order in which they close. -/
def Expr.calls : Expr → List Expr
  | symbol _ _ => []
  | literal _ _ => []
  | member _ object _ => object.calls
  | index _ object key => object.calls ++ key.calls
  | call origin callee arguments => callee.calls ++ arguments.calls ++ [call origin callee arguments]
  | callEmpty origin callee => callee.calls ++ [callEmpty origin callee]
  | unary _ _ operand => operand.calls
  | stepAfter _ _ operand => operand.calls
  | binary _ _ left right => left.calls ++ right.calls
  | ternary _ condition truthy falsy => condition.calls ++ truthy.calls ++ falsy.calls
  | wrapper _ inner => inner.calls

@[simp] theorem Expr.calls_wrap (expr : Expr) (origin : Origin) :
    (expr.wrap origin).calls = expr.calls := by
  cases expr <;> rfl

theorem Expr.stop_wrap_le {expr : Expr} {origin : Origin} (within : expr.origin.stop ≤ origin.stop) :
    (expr.wrap origin).origin.stop ≤ origin.stop := by
  cases expr <;> first | exact within | exact Nat.le_refl _

namespace Arithmetic

/-- The expression is the call that the brackets make: it ends where they end, and its arguments are
what they hold. -/
inductive IsCallOf : Expr → Node → Prop where
  | callEmpty {origin callee node} (named : node.IsGroupOf "call") (closes : origin.stop = node.stop)
      (holdsNothing : node.children = []) : IsCallOf (.callEmpty origin callee) node
  | call {origin callee arguments node} (named : node.IsGroupOf "call")
      (closes : origin.stop = node.stop) (holdsSome : node.children ≠ [])
      (compiled : compileInside node = .ok arguments) :
      IsCallOf (.call origin callee arguments) node

theorem IsCallOf.stop_eq {call : Expr} {node : Node} (isCall : IsCallOf call node) :
    call.origin.stop = node.stop := by
  cases isCall <;> assumption

/-- What the node holds has the calls that close inside it, and does not reach beyond it. -/
structure Holds (node : Node) : Prop where
  inLanguage : InLanguage node
  calls : ∀ inner, compileInside node = .ok inner → List.Forall₂ IsCallOf inner.calls node.calls
  stop : ∀ inner, compileInside node = .ok inner → inner.origin.stop ≤ node.stop

variable {nodes others : List Node} {node : Node} {made value : Expr}

/-! ### Where expressions end -/

theorem Atom.stop_le (holds : Holds node) (atom : Atom node made) :
    made.origin.stop ≤ node.stop := by
  cases atom with
  | paren _ compiled => exact Expr.stop_wrap_le (holds.stop _ compiled)
  | _ => exact Nat.le_refl _

theorem Link.stop_le {bound : Nat} (link : Link value nodes made) (before : value.origin.stop ≤ bound)
    (within : ∀ node ∈ nodes, node.stop ≤ bound) : made.origin.stop ≤ bound := by
  cases link <;> simp_all [memberOf, Expr.origin]

/-- An expression ends where the nodes end that build it, or before. -/
theorem Builds.stop_le {bound : Nat} (builds : Builds nodes made) (holds : ∀ node ∈ nodes, Holds node)
    (within : ∀ node ∈ nodes, node.stop ≤ bound) : made.origin.stop ≤ bound := by
  induction builds with
  | @atom node made atom =>
      exact Nat.le_trans (atom.stop_le (holds node (by simp))) (within node (by simp))
  | link _ link ih =>
      refine link.stop_le (ih ?_ ?_) fun node member => within node (List.mem_append_right _ member)
      · exact fun node member => holds node (List.mem_append_left _ member)
      · exact fun node member => within node (List.mem_append_left _ member)
  | step _ _ _ ih => simp_all [Expr.origin]
  | unary _ _ _ ih => simp_all [Expr.origin]
  | binary _ _ _ ihLeft ihRight => simp_all [binaryOf, Expr.origin]
  | ternary _ _ _ _ _ ih ihTruthy ihFalsy => simp_all [Expr.origin]

/-! ### Which calls expressions have -/

theorem closings_of_writesBetween {symbol : String} (inLanguage : InLanguage node)
    (writes : node.WritesBetween symbol) : node.closings = [] := by
  have named : node.name = "operator" := writes.1
  cases inLanguage with
  | token => exact Node.closings_of_isToken rfl
  | _ => simp [Node.name] at named

theorem Atom.calls (holds : Holds node) (atom : Atom node made) :
    List.Forall₂ IsCallOf made.calls node.closings := by
  cases atom with
  | number named => rw [Node.closings_of_isToken named.1]; exact .nil
  | string named => rw [Node.closings_of_isToken named.1]; exact .nil
  | identifier named => rw [Node.closings_of_isToken named.1]; exact .nil
  | paren named compiled =>
      rw [Expr.calls_wrap, Node.closings_of_other (by simp [named.2]), ← Node.calls_eq]
      exact holds.calls _ compiled

/-- A link has the calls of the value, those in its brackets, and itself if it is one. -/
theorem Link.calls (link : Link value nodes made) (holds : ∀ node ∈ nodes, Holds node)
    (before : ∀ node ∈ nodes, value.origin.stop ≤ node.stop) {former : List Node}
    (calls : List.Forall₂ IsCallOf value.calls former) :
    List.Forall₂ IsCallOf made.calls (former ++ Node.callsOfAll nodes) := by
  cases link with
  | member dotted named =>
      rw [Node.callsOfAll_cons, Node.callsOfAll_cons, Node.closings_of_isToken dotted.1,
        Node.closings_of_isToken named.1]
      simpa [memberOf, Expr.calls] using calls
  | @callEmpty node named holdsNothing =>
      rw [Node.callsOfAll_cons, Node.closings_of_isCall named, holdsNothing]
      refine List.rel_append calls (.cons (.callEmpty named ?_ holdsNothing) .nil)
      simpa using before node (by simp)
  | @call node arguments named holdsSome compiled =>
      rw [Node.callsOfAll_cons, Node.closings_of_isCall named, ← Node.calls_eq,
        Node.callsOfAll_nil, List.append_nil, ← List.append_assoc]
      refine List.rel_append (List.rel_append calls ((holds node (by simp)).calls _ compiled))
        (.cons (.call named ?_ holdsSome compiled) .nil)
      simpa using before node (by simp)
  | @index node key named compiled =>
      rw [Node.callsOfAll_cons, Node.closings_of_other (by simp [named.2]), ← Node.calls_eq,
        Node.callsOfAll_nil, List.append_nil]
      exact List.rel_append calls ((holds node (by simp)).calls _ compiled)

/-- An expression has the calls of the nodes that build it. -/
theorem Builds.calls (builds : Builds nodes made) (holds : ∀ node ∈ nodes, Holds node)
    (ordered : nodes.Pairwise fun former later => former.stop ≤ later.stop) :
    List.Forall₂ IsCallOf made.calls (Node.callsOfAll nodes) := by
  induction builds with
  | @atom node made atom =>
      simpa using atom.calls (holds node (by simp))
  | @link nodes others value made former link ih =>
      obtain ⟨orderedFormer, _, apart⟩ := List.pairwise_append.1 ordered
      have holdsFormer : ∀ node ∈ nodes, Holds node :=
        fun node member => holds node (List.mem_append_left _ member)
      rw [Node.callsOfAll_append]
      -- What is called ends before the brackets end, so the call ends where its brackets do.
      refine link.calls (fun node member => holds node (List.mem_append_right _ member)) ?_
        (ih holdsFormer orderedFormer)
      exact fun node member => former.stop_le holdsFormer fun earlier among =>
        apart earlier among node member
  | step _ named _ ih =>
      have former := ih (fun node member => holds node (List.mem_append_left _ member))
        (List.pairwise_append.1 ordered).1
      simpa [Expr.calls, Node.closings_of_isToken named.1] using former
  | unary named _ _ ih =>
      have latter := ih (fun node member => holds node (List.mem_cons_of_mem _ member))
        ordered.of_cons
      simpa [Expr.calls, Node.closings_of_isToken named.1] using latter
  | @binary nodes left node operator others right _ writes _ ihLeft ihRight =>
      obtain ⟨orderedFormer, orderedLatter, _⟩ := List.pairwise_append.1 ordered
      have former := ihLeft (fun node member => holds node (List.mem_append_left _ member))
        orderedFormer
      have latter := ihRight (fun node member => holds node (by simp [member]))
        orderedLatter.of_cons
      have none := closings_of_writesBetween (holds node (by simp)).inLanguage writes
      simpa [binaryOf, Expr.calls, none] using List.rel_append former latter
  | @ternary nodes condition question truthyNodes truthy colon falsyNodes falsy _ opens _ closes _
      ih ihTruthy ihFalsy =>
      obtain ⟨orderedFormer, orderedBehind, _⟩ := List.pairwise_append.1 ordered
      obtain ⟨orderedTruthy, orderedLatter, _⟩ := List.pairwise_append.1 orderedBehind.of_cons
      have former := ih (fun node member => holds node (by simp [member])) orderedFormer
      have between := ihTruthy (fun node member => holds node (by simp [member])) orderedTruthy
      have latter := ihFalsy (fun node member => holds node (by simp [member])) orderedLatter.of_cons
      have noQuestion := closings_of_writesBetween (holds question (by simp)).inLanguage opens
      have noColon := closings_of_writesBetween (holds colon (by simp)).inLanguage closes
      simpa [Expr.calls, noQuestion, noColon] using
        List.rel_append former (List.rel_append between latter)

/-! ### Parts of parse trees -/

/-- The node stands in a text where its parts say, and the parts are made by the language. -/
structure Parsed (node : Node) : Prop where
  placed : ∃ before, node.PlacedAfter before
  makes : ∀ child ∈ node.children, grammar.MakesAll child

theorem parsed_of_parse {options : ParseOptions} {source : Text} {tree : Node}
    (parsed : grammar.parse options source = .ok tree) : Parsed tree where
  placed := ⟨[], (Grammar.parse_placed grammar_findsPrefixes parsed).1⟩
  makes := Grammar.parse_makesAll parsed

namespace Parsed

variable {child inner : Node}

theorem faithful (parsed : Parsed node) : ∃ text, node.Faithful text := by
  obtain ⟨before, placed⟩ := parsed.placed
  exact ⟨_, placed.faithful []⟩

theorem part (parsed : Parsed node) (member : child ∈ node.children) : Parsed child := by
  obtain ⟨before, placed⟩ := parsed.placed
  obtain ⟨earlier, later, _, childPlaced⟩ := placed.children.split member
  refine ⟨⟨_, childPlaced⟩, fun inner within other contains => ?_⟩
  exact parsed.makes child member other ((Node.Contains.child .self within).trans contains)

theorem inLanguage (parsed : Parsed node) (member : child ∈ node.children) : InLanguage child :=
  inLanguage_of_makes (parsed.makes child member child .self)

/-- The children end one after the other. -/
theorem ordered (parsed : Parsed node) :
    node.children.Pairwise fun former later => former.stop ≤ later.position := by
  obtain ⟨text, faithful⟩ := parsed.faithful
  exact faithful.ordered

theorem child_within (parsed : Parsed node) (member : child ∈ node.children) :
    0 < child.length ∧ node.position ≤ child.position ∧
      child.stop + node.closing.byteLength ≤ node.stop := by
  obtain ⟨text, faithful⟩ := parsed.faithful
  obtain ⟨starts, stops⟩ := faithful.inside child member
  exact ⟨faithful.nonempty child member, by omega, stops⟩

/-- A call in the node ends behind the start of the node and before its end marker. -/
theorem calls_within {node : Node} (parsed : Parsed node) (member : inner ∈ node.calls) :
    node.position < inner.stop ∧ inner.stop + node.closing.byteLength ≤ node.stop := by
  rw [Node.calls_eq, Node.callsOfAll_eq_flatMap, List.mem_flatMap] at member
  obtain ⟨child, within, among⟩ := member
  obtain ⟨nonempty, starts, stops⟩ := parsed.child_within within
  rcases List.mem_append.1 among with inside | self
  · have smaller := Node.sizeOf_lt_of_mem_children within
    obtain ⟨startsInside, stopsInside⟩ := (parsed.part within).calls_within inside
    exact ⟨by omega, by omega⟩
  · obtain rfl : inner = child := by
      split at self
      · exact List.mem_singleton.1 self
      · cases self
    exact ⟨by rw [Node.stop]; omega, stops⟩
termination_by sizeOf node

/-- A call in a child or the child itself ends within the child. -/
theorem closings_within (parsed : Parsed node) (member : child ∈ node.children)
    (among : inner ∈ child.closings) : child.position < inner.stop ∧ inner.stop ≤ child.stop := by
  obtain ⟨nonempty, _, _⟩ := parsed.child_within member
  rcases List.mem_append.1 among with inside | self
  · obtain ⟨starts, stops⟩ := (parsed.part member).calls_within inside
    exact ⟨starts, by omega⟩
  · obtain rfl : inner = child := by
      split at self
      · exact List.mem_singleton.1 self
      · cases self
    exact ⟨by rw [Node.stop]; omega, Nat.le_refl _⟩

/-- The calls in the node are listed in the order in which they end. -/
theorem calls_ordered {node : Node} (parsed : Parsed node) :
    node.calls.Pairwise fun former later => former.stop < later.stop := by
  rw [Node.calls_eq, Node.callsOfAll_eq_flatMap, List.pairwise_flatMap]
  constructor
  · intro child member
    have smaller := Node.sizeOf_lt_of_mem_children member
    have inside := (parsed.part member).calls_ordered
    by_cases isCall : child.isCall = true
    · have closing : child.closing.byteLength = 1 := by
        rw [(parsed.inLanguage member).closing_of_call (Node.isCall_iff.1 isCall)]
        rfl
      rw [Node.closings, if_pos isCall]
      refine List.pairwise_append.2 ⟨inside, List.pairwise_singleton _ _, ?_⟩
      intro inner among other self
      obtain rfl := List.mem_singleton.1 self
      have stops := ((parsed.part member).calls_within among).2
      omega
    · rwa [Node.closings, if_neg isCall, List.append_nil]
  · refine parsed.ordered.imp_of_mem ?_
    intro former later memberFormer memberLater apart inner among other amongLater
    have stops := (parsed.closings_within memberFormer among).2
    have starts := (parsed.closings_within memberLater amongLater).1
    omega
termination_by sizeOf node

/-- What compiles from the inside of the node has the calls in the node. -/
theorem holds (parsed : Parsed node) (compiled : compileInside node = .ok made) :
    List.Forall₂ IsCallOf made.calls node.calls ∧ made.origin.stop ≤ node.stop := by
  revert parsed
  refine compileInside_induction ?_ compiled
  intro node made builds inside parsed
  have holds : ∀ child ∈ node.children, Holds child := fun child member =>
    ⟨parsed.inLanguage member,
      fun inner compiled => (inside child member inner compiled (parsed.part member)).1,
      fun inner compiled => (inside child member inner compiled (parsed.part member)).2⟩
  have ordered := parsed.ordered.imp fun {former later} apart =>
    Nat.le_trans apart (Nat.le_add_right later.position later.length)
  rw [Node.calls_eq]
  refine ⟨builds.calls holds ordered, builds.stop_le holds fun child member => ?_⟩
  have stops := (parsed.child_within member).2.2
  omega

end Parsed

end Arithmetic

/-- A closing parenthesis of the text ends at this offset. -/
def Text.ClosesAt (text : Text) (stop : Nat) : Prop :=
  ∃ before after, text = before ++ ')' :: after ∧ before.byteLength + 1 = stop

namespace Arithmetic

/-- A call in a parse tree ends at a closing parenthesis of the source. -/
theorem closesAt_of_mem_calls {options : ParseOptions} {source : Text} {tree call : Node}
    (parsed : grammar.parse options source = .ok tree) (member : call ∈ tree.calls) :
    source.ClosesAt call.stop := by
  obtain ⟨⟨child, within, contains⟩, isCall⟩ := Node.mem_calls_iff.1 member
  have inLanguage := inLanguage_of_makes (Grammar.parse_makesAll parsed child within call contains)
  obtain ⟨placed, whole⟩ := Grammar.parse_placed grammar_findsPrefixes parsed
  obtain ⟨earlier, later, source_eq, callPlaced⟩ :=
    ((Node.Contains.child .self within).trans contains).placed placed
  rw [List.nil_append, whole] at source_eq
  cases call with
  | token => cases isCall.1
  | group name position length opening closing content leading trailing children =>
      obtain rfl : closing = [')'] := inLanguage.closing_of_call isCall
      refine ⟨earlier ++ leading ++ opening ++ Node.textOfAll children ++ trailing, later, ?_, ?_⟩
      · simp [source_eq, Node.text]
      · rw [Node.stop, callPlaced.stop_eq]
        simp only [Node.text, Text.byteLength_append, Nat.add_assoc]
        rfl

/-- An expression that compiles from a source has the calls of the tree, in the order in which their
brackets close in the source. -/
theorem calls_of_compile {source : Text} (compiled : compile source = .ok made) :
    ∃ tree, grammar.parse .plain source = .ok tree ∧
      List.Forall₂ IsCallOf made.calls tree.calls ∧
      (made.calls.Pairwise fun former later => former.origin.stop < later.origin.stop) ∧
      ∀ call ∈ made.calls, source.ClosesAt call.origin.stop := by
  unfold compile at compiled
  split at compiled
  · rename_i tree parse
    have parsed := parsed_of_parse parse
    obtain ⟨calls, _⟩ := parsed.holds compiled
    have stops : made.calls.map (·.origin.stop) = tree.calls.map Node.stop := by
      rw [← List.forall₂_eq_eq_eq, List.forall₂_map_left_iff, List.forall₂_map_right_iff]
      exact calls.imp fun _ _ => IsCallOf.stop_eq
    refine ⟨tree, parse, calls, ?_, ?_⟩
    · have ordered := List.pairwise_map.2 parsed.calls_ordered
      rw [← stops] at ordered
      exact List.pairwise_map.1 ordered
    · intro call member
      have listed : call.origin.stop ∈ tree.calls.map Node.stop := by
        rw [← stops]
        exact List.mem_map.2 ⟨call, member, rfl⟩
      obtain ⟨node, among, stop_eq⟩ := List.mem_map.1 listed
      rw [← stop_eq]
      exact closesAt_of_mem_calls parse among
  · cases compiled

end Arithmetic

end Parlance
