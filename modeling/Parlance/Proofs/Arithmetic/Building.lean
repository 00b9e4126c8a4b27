import Parlance.Proofs.Arithmetic.Precedence
import Parlance.Proofs.Tree.Nodes

/-!
# What expressions are built from

Whatever the passes make is built from the nodes of its level in their order: from atoms with links
and steps behind them, operators in front of them and between them, and ternaries. `Builds` says so with
the origins that the passes give, and without regard to precedence, so what holds of every expression
that is built from nodes holds of every expression that compiles, ternaries included.
-/

namespace Parlance.Arithmetic

/-- The nodes build the expression, each of them once and in their order. What is inside brackets is
compiled by itself. -/
inductive Builds : List Node → Expr → Prop where
  | atom {node made} (atom : Atom node made) : Builds [node] made
  | link {nodes others value made} (former : Builds nodes value) (link : Link value others made) :
      Builds (nodes ++ others) made
  | step {nodes operand node step} (former : Builds nodes operand)
      (named : node.IsTokenOf "postfix") (writes : textOf node = step.symbol.toList) :
      Builds (nodes ++ [node])
        (.stepAfter (.spanning node.name operand.origin (originOf node)) step operand)
  | unary {node nodes operator operand} (named : node.IsTokenOf "prefix")
      (writes : textOf node = operator.symbol.toList) (latter : Builds nodes operand) :
      Builds (node :: nodes)
        (.unary (.spanning node.name (originOf node) operand.origin) operator operand)
  | binary {nodes left node operator others right} (former : Builds nodes left)
      (writes : node.WritesBetween operator.symbol) (latter : Builds others right) :
      Builds (nodes ++ node :: others) (binaryOf operator left right)
  | ternary {nodes condition question truthyNodes truthy colon falsyNodes falsy}
      (former : Builds nodes condition) (opens : question.WritesBetween "?")
      (between : Builds truthyNodes truthy) (closes : colon.WritesBetween ":")
      (latter : Builds falsyNodes falsy) :
      Builds (nodes ++ question :: (truthyNodes ++ colon :: falsyNodes))
        (.ternary (.spanning operatorName condition.origin
          (.spanning operatorName truthy.origin falsy.origin)) condition truthy falsy)

/-- The item is one of the nodes as it was, or the nodes build its expression or its branches. -/
inductive Built : List Node → Item → Prop where
  | node (node : Node) : Built [node] (.ofNode node)
  | made {nodes made} (builds : Builds nodes made) : Built nodes (.expr made)
  | branches {nodes truthy colon others falsy} (former : Builds nodes truthy)
      (closes : colon.WritesBetween ":") (latter : Builds others falsy) :
      Built (nodes ++ colon :: others)
        (.branches truthy falsy (.spanning operatorName truthy.origin falsy.origin))

variable {nodes others : List Node} {item : Item} {items out : List Item} {made : Expr}

theorem built_keepsNodes : KeepsNodes Built := by
  intro nodes node inside built
  cases built
  exact ⟨rfl, rfl⟩

theorem Built.builds (built : Built nodes (.expr made)) : Builds nodes made := by
  cases built
  assumption

/-! ### One level of brackets -/

theorem reduceOperands_built (done : reduceOperands (itemsOf nodes) = .ok out) :
    StandFor Built nodes out := by
  obtain ⟨atoms, chains, posts, atomized, scanned, stepped, finished⟩ :=
    reduceOperands_eq_ok_iff.1 done
  have builtAtoms : StandFor Built nodes atoms := by
    refine reduceAtoms_standFor (fun {node item} atomizes => ?_) atomized
    rcases reduceAtom_cases atomizes with rfl | ⟨made, rfl, atom⟩
    · exact .node node
    · exact .made (.atom atom)
  have builtChains : StandFor Built nodes chains :=
    scanned.standFor (fun _ _ here => here)
      (fun former taken merged =>
        .made (.link former.builds (merged.link built_keepsNodes taken))) builtAtoms
  have builtPosts : StandFor Built nodes posts := by
    refine stepped.standFor (fun _ _ here => here) ?_ builtChains
    intro nodes others operand taken made former standing merged
    obtain ⟨node, step, rfl, named, writes, rfl⟩ := merged.eq_stepAfter built_keepsNodes standing
    exact .made (.step former.builds named writes)
  refine reduceUnary_standFor built_keepsNodes (fun _ _ here => here) ?_ builtPosts finished
  intro node nodes operand made latter named merged
  obtain ⟨operator, writes, rfl⟩ := eq_unary_of_unaryOf merged
  exact .made (.unary named writes latter.builds)

theorem reduceLevel_built (level : List BinaryOperator) (standing : StandFor Built nodes items) :
    StandFor Built nodes (fromFirst (reduceLevel level) items) := by
  refine (fromFirst_reduceLevel_eq_iff.1 rfl).standFor (fun _ _ here => here) ?_ standing
  intro nodes others left taken made former standing merged
  obtain ⟨node, operator, behind, right, rfl, _, writes, latter, rfl⟩ :=
    merged.eq_binaryOf built_keepsNodes standing
  exact .made (.binary former.builds writes latter.builds)

theorem reduceAt_built (levels : List (List BinaryOperator)) (standing : StandFor Built nodes items) :
    StandFor Built nodes (reduceAt levels items) := by
  induction levels with
  | nil => exact standing
  | cons level levels ih => exact reduceLevel_built level ih

theorem ternaryOf?_built {left : List Item} {previous current next made : Item}
    {former middle latter : List Node} (builtPrevious : Built former previous)
    (builtCurrent : Built middle current) (builtNext : Built latter next)
    (makes : ternaryOf? left previous current next = some made) :
    Built (former ++ (middle ++ latter)) made := by
  unfold ternaryOf? at makes
  split at makes
  · rw [Option.ite_none_right_eq_some, Bool.and_eq_true, Item.isColon, beq_iff_eq] at makes
    obtain ⟨⟨colon, _⟩, ⟨⟩⟩ := makes
    obtain ⟨node, inside, rfl, closes⟩ := Item.symbol?_eq_some_iff.1 colon
    obtain ⟨rfl, _⟩ := built_keepsNodes builtCurrent
    exact .branches builtPrevious.builds closes builtNext.builds
  · rw [Option.ite_none_right_eq_some, Item.isQuestion, beq_iff_eq] at makes
    obtain ⟨question, ⟨⟩⟩ := makes
    obtain ⟨node, inside, rfl, opens⟩ := Item.symbol?_eq_some_iff.1 question
    obtain ⟨rfl, _⟩ := built_keepsNodes builtCurrent
    cases builtNext with
    | branches between closes latter =>
        exact .made (.ternary builtPrevious.builds opens between closes latter)
  · cases makes

theorem passTernaries_built {left passed : List Item} (standing : StandFor Built nodes left.reverse)
    (standingPassed : StandFor Built others passed) :
    StandFor Built (nodes ++ others) (passTernaries left passed) := by
  fun_induction passTernaries left passed generalizing nodes others with
  | case1 passed =>
      cases standing
      exact standingPassed
  | case2 current passed => exact standing.append standingPassed
  | case3 current previous left ih =>
      rw [List.reverse_cons] at standing
      obtain ⟨former, latter, rfl, standsLeft, standsLast⟩ := standing.split
      rw [List.append_assoc]
      exact ih standsLeft (standsLast.append standingPassed)
  | case4 current previous left next rest made makes ih =>
      rw [List.reverse_cons, List.reverse_cons] at standing
      obtain ⟨_, middle, rfl, standsBoth, standsCurrent⟩ := standing.split
      obtain ⟨former, before, rfl, standsLeft, standsPrevious⟩ := standsBoth.split
      cases standingPassed with
      | cons here behind =>
          have builtMade := ternaryOf?_built standsPrevious.single standsCurrent.single here makes
          have goesOn := ih standsLeft (.cons builtMade behind)
          simpa using goesOn
  | case5 current previous left next rest makes ih =>
      rw [List.reverse_cons] at standing
      obtain ⟨former, latter, rfl, standsLeft, standsLast⟩ := standing.split
      rw [List.append_assoc]
      exact ih standsLeft (standsLast.append standingPassed)

theorem reduceTernaries_built (fuel : Nat) (standing : StandFor Built nodes items) :
    StandFor Built nodes (reduceTernaries fuel items) := by
  induction fuel generalizing items with
  | zero => exact standing
  | succ fuel ih =>
      have reversed : StandFor Built nodes items.reverse.reverse := by simpa using standing
      have passed := passTernaries_built reversed .nil
      rw [List.append_nil] at passed
      rw [reduceTernaries]
      split
      · exact standing
      · exact ih passed

/-- What compiles is built from the children of the node. -/
theorem builds_of_compileInside {node : Node} (compiled : compileInside node = .ok made) :
    Builds node.children made := by
  obtain ⟨operands, _, done, rfl, finished⟩ := compileInside_eq_ok_iff.1 compiled
  have values := reduceAt_built BinaryOperator.levels.reverse (reduceOperands_built done)
  have joined := reduceLevel_built [.comma] (reduceTernaries_built
    (reduceAt BinaryOperator.levels.reverse operands).length values)
  rw [finished] at joined
  exact joined.single.builds

/-- What holds of an expression if it is built from nodes of which it holds, holds of everything that
compiles: the brackets in brackets come first. -/
@[elab_as_elim]
theorem compileInside_induction {holds : Node → Expr → Prop}
    (build : ∀ node made, Builds node.children made →
      (∀ child ∈ node.children, ∀ inner, compileInside child = .ok inner → holds child inner) →
      holds node made)
    {node : Node} {made : Expr} (compiled : compileInside node = .ok made) : holds node made := by
  refine build node made (builds_of_compileInside compiled) fun child member inner compiledInner => ?_
  have smaller := Node.sizeOf_lt_of_mem_children member
  exact compileInside_induction build compiledInner
termination_by sizeOf node

end Parlance.Arithmetic
