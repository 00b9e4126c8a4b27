import Parlance.Proofs.Arithmetic.Scan

/-!
# What is derived the passes make

Nodes that derive an operand are reduced to one expression by the passes up to the operators in front
of operands, and nodes with operators of some levels between their operands by the passes for these
levels. This holds also next to operators of other levels, since no pass merges across them.
-/

namespace Parlance.Arithmetic

variable {nodes others : List Node} {node : Node} {expr : Expr} {left right items : List Item}

/-! ### Nodes that a pass leaves alone -/

theorem reduceAtom_of_name (node : Node)
    (named : node.name ∉ ["number", "string", "identifier", "paren"]) :
    reduceAtom (.ofNode node) = .ok (.ofNode node) := by
  simp only [List.mem_cons, List.not_mem_nil, or_false, not_or] at named
  obtain ⟨notNumber, notString, notIdentifier, notParen⟩ := named
  simp only [reduceAtom, Item.ofNode]
  split
  · rfl
  · rfl

theorem not_mem_of_mergesInChain (named : node.name ∉ ["dot", "property", "call", "index"])
    {value : Expr} {taken : List Item} {made : Except CompileError Expr}
    (merged : MergesInChain value taken made) : .ofNode node ∉ taken := by
  simp only [List.mem_cons, List.not_mem_nil, or_false, not_or] at named
  obtain ⟨notDot, notProperty, notCall, notIndex⟩ := named
  intro member
  cases merged with
  | member dotted property =>
      obtain ⟨isDot, _, rfl⟩ := Item.token?_eq_some_iff.1 dotted
      obtain ⟨isProperty, _, rfl⟩ := Item.token?_eq_some_iff.1 property
      simp only [Item.ofNode, List.mem_cons, Item.raw.injEq, List.not_mem_nil, or_false] at member
      rcases member with ⟨rfl, _⟩ | ⟨rfl, _⟩
      · exact notDot isDot.2
      · exact notProperty isProperty.2
  | bracket found =>
      obtain ⟨other, _, rfl, bracket⟩ := bracketOf?_cases found
      simp only [Item.ofNode, List.mem_cons, Item.raw.injEq, List.not_mem_nil, or_false] at member
      obtain ⟨rfl, _⟩ := member
      rcases bracket with ⟨isCall, _⟩ | ⟨isIndex, _⟩
      · exact notCall isCall.2
      · exact notIndex isIndex.2

theorem not_mem_of_mergesInStep (named : node.name ≠ "postfix") {operand : Expr}
    {taken : List Item} {made : Except CompileError Expr}
    (merged : MergesInStep operand taken made) : .ofNode node ∉ taken := by
  intro member
  cases merged with
  | step found =>
      obtain ⟨isStep, _, rfl⟩ := Item.token?_eq_some_iff.1 found
      simp only [Item.ofNode, List.mem_cons, Item.raw.injEq, List.not_mem_nil, or_false] at member
      obtain ⟨rfl, _⟩ := member
      exact named isStep.2

theorem not_mem_of_mergesInLevel {level : List BinaryOperator}
    (foreign : (Item.ofNode node).operator? level = none) {operand : Expr} {taken : List Item}
    {made : Except CompileError Expr} (merged : MergesInLevel level operand taken made) :
    .ofNode node ∉ taken := by
  intro member
  cases merged with
  | binary found =>
      simp only [Item.ofNode, List.mem_cons, List.not_mem_nil, or_false, reduceCtorEq] at member
      rw [← member, ← Item.ofNode, foreign] at found
      cases found

theorem ne_nil_of_mergesInChain {value : Expr} {taken : List Item} {made : Except CompileError Expr}
    (merged : MergesInChain value taken made) : taken ≠ [] := by
  cases merged <;> simp

theorem ne_nil_of_mergesInStep {operand : Expr} {taken : List Item}
    {made : Except CompileError Expr} (merged : MergesInStep operand taken made) : taken ≠ [] := by
  cases merged
  simp

theorem ne_nil_of_mergesInLevel {level : List BinaryOperator} {operand : Expr} {taken : List Item}
    {made : Except CompileError Expr} (merged : MergesInLevel level operand taken made) :
    taken ≠ [] := by
  cases merged
  simp

/-! ### Lists in a row -/

theorem reduceAtoms_append {made others' : List Item}
    (done : reduceAtoms (itemsOf nodes) = .ok made)
    (behind : reduceAtoms (itemsOf others) = .ok others') :
    reduceAtoms (itemsOf (nodes ++ others)) = .ok (made ++ others') := by
  rw [reduceAtoms, itemsOf_eq_map] at *
  rw [List.map_append, List.mapM_append, done, behind]
  rfl

theorem reduceAtoms_single {item : Item} (done : reduceAtom (.ofNode node) = .ok item) :
    reduceAtoms (itemsOf [node]) = .ok [item] := by
  rw [reduceAtoms, itemsOf_eq_map, List.map_singleton, List.mapM_cons, done]
  rfl

theorem reduceAtoms_of_name (node : Node)
    (named : node.name ∉ ["number", "string", "identifier", "paren"]) :
    reduceAtoms (itemsOf [node]) = .ok [.ofNode node] :=
  reduceAtoms_single (reduceAtom_of_name node named)

/-- Without its prefix, a list is reduced in front of an operator as it is by itself. -/
theorem reduceUnary_append {reduced reducedBehind : List Item} (notPrefix : node.name ≠ "prefix")
    (done : reduceUnary left = .ok reduced) (behind : reduceUnary right = .ok reducedBehind) :
    reduceUnary (left ++ .ofNode node :: right) =
      .ok (reduced ++ .ofNode node :: reducedBehind) := by
  induction left generalizing reduced with
  | nil =>
      cases done
      have noToken : (Item.ofNode node).token? "prefix" = none := by
        simp [Item.token?, Item.ofNode, notPrefix]
      rw [List.nil_append, reduceUnary, behind, noToken]
      rfl
  | cons item rest ih =>
      obtain ⟨reducedRest, doneRest, finished⟩ := bind_eq_ok_iff.1 done
      rw [List.cons_append, reduceUnary, ih doneRest]
      cases found : item.token? "prefix" with
      | none =>
          rw [found] at finished
          cases finished
          rfl
      | some operator =>
          rw [found] at finished
          cases reducedRest with
          | nil =>
              cases finished
              rfl
          | cons first others =>
              cases first with
              | expr operand =>
                  obtain ⟨made, merged, rest_eq⟩ := bind_eq_ok_iff.1 finished
                  cases rest_eq
                  simp [merged, bind, Except.bind, pure, Except.pure]
              | raw _ _ =>
                  cases finished
                  rfl
              | branches _ _ _ =>
                  cases finished
                  rfl

/-- The passes up to the operators in front of operands do not go across an operator between
operands. -/
theorem reduceOperands_append {reduced reducedBehind : List Item} (named : node.name = operatorName)
    (done : reduceOperands (itemsOf nodes) = .ok reduced)
    (behind : reduceOperands (itemsOf others) = .ok reducedBehind) :
    reduceOperands (itemsOf (nodes ++ node :: others)) =
      .ok (reduced ++ .ofNode node :: reducedBehind) := by
  obtain ⟨atoms, chains, posts, doneAtoms, scanned, stepped, finished⟩ :=
    reduceOperands_eq_ok_iff.1 done
  obtain ⟨atomsBehind, chainsBehind, postsBehind, doneAtomsBehind, scannedBehind, steppedBehind,
    finishedBehind⟩ := reduceOperands_eq_ok_iff.1 behind
  have kept := reduceAtoms_of_name node (by simp [named, operatorName])
  refine reduceOperands_eq_ok_iff.2 ⟨_, _, _,
    reduceAtoms_append doneAtoms (reduceAtoms_append kept doneAtomsBehind),
    scanned.separate (fun _ _ _ => not_mem_of_mergesInChain (by simp [named, operatorName]))
      (fun _ _ _ => ne_nil_of_mergesInChain) scannedBehind,
    stepped.separate (fun _ _ _ => not_mem_of_mergesInStep (by simp [named, operatorName]))
      (fun _ _ _ => ne_nil_of_mergesInStep) steppedBehind,
    reduceUnary_append (by simp [named, operatorName]) finished finishedBehind⟩

theorem reduceAtoms_split {atoms : List Item}
    (done : reduceAtoms (itemsOf (nodes ++ others)) = .ok atoms) :
    ∃ former latter, atoms = former ++ latter ∧ reduceAtoms (itemsOf nodes) = .ok former ∧
      reduceAtoms (itemsOf others) = .ok latter := by
  rw [reduceAtoms, itemsOf_eq_map, List.map_append, List.mapM_append] at done
  obtain ⟨former, doneFormer, done⟩ := bind_eq_ok_iff.1 done
  obtain ⟨latter, doneLatter, done⟩ := bind_eq_ok_iff.1 done
  cases done
  exact ⟨former, latter, rfl, by rwa [reduceAtoms, itemsOf_eq_map],
    by rwa [reduceAtoms, itemsOf_eq_map]⟩

theorem reduceUnary_split {reduced : List Item} (notPrefix : node.name ≠ "prefix")
    (done : reduceUnary (left ++ .ofNode node :: right) = .ok reduced) :
    ∃ former latter, reduced = former ++ .ofNode node :: latter ∧ reduceUnary left = .ok former ∧
      reduceUnary right = .ok latter := by
  have noToken : (Item.ofNode node).token? "prefix" = none := by
    simp [Item.token?, Item.ofNode, notPrefix]
  induction left generalizing reduced with
  | nil =>
      obtain ⟨latter, doneLatter, finished⟩ := bind_eq_ok_iff.1 done
      rw [noToken] at finished
      cases finished
      exact ⟨[], latter, rfl, rfl, doneLatter⟩
  | cons item rest ih =>
      obtain ⟨_, behind, finished⟩ := bind_eq_ok_iff.1 done
      obtain ⟨former, latter, rfl, doneFormer, doneLatter⟩ := ih behind
      rw [reduceUnary, doneFormer]
      cases found : item.token? "prefix" with
      | none =>
          rw [found] at finished
          cases finished
          exact ⟨item :: former, latter, rfl, rfl, doneLatter⟩
      | some operator =>
          rw [found] at finished
          cases former with
          | nil =>
              cases finished
              exact ⟨[item], latter, rfl, rfl, doneLatter⟩
          | cons first others =>
              cases first with
              | expr operand =>
                  obtain ⟨made, merged, rest_eq⟩ := bind_eq_ok_iff.1 finished
                  cases rest_eq
                  exact ⟨.expr made :: others, latter, rfl, by simp [merged, bind, Except.bind,
                    pure, Except.pure], doneLatter⟩
              | raw _ _ =>
                  cases finished
                  exact ⟨_, latter, rfl, rfl, doneLatter⟩
              | branches _ _ _ =>
                  cases finished
                  exact ⟨_, latter, rfl, rfl, doneLatter⟩

/-- If the passes up to the operators in front of operands succeed around an operator between
operands, they succeed on both sides. -/
theorem reduceOperands_split {reduced : List Item} (named : node.name = operatorName)
    (done : reduceOperands (itemsOf (nodes ++ node :: others)) = .ok reduced) :
    ∃ former latter, reduced = former ++ .ofNode node :: latter ∧
      reduceOperands (itemsOf nodes) = .ok former ∧
      reduceOperands (itemsOf others) = .ok latter := by
  obtain ⟨_, _, _, doneAtoms, scanned, stepped, finished⟩ := reduceOperands_eq_ok_iff.1 done
  obtain ⟨atoms, behind, rfl, doneFormer, doneBehind⟩ := reduceAtoms_split doneAtoms
  obtain ⟨single, atomsLatter, rfl, doneSingle, doneLatter⟩ :=
    @reduceAtoms_split [node] others _ doneBehind
  rw [reduceAtoms_of_name node (by simp [named, operatorName])] at doneSingle
  cases doneSingle
  obtain ⟨chains, chainsLatter, rfl, scan, scanLatter⟩ := scanned.split
    fun _ _ _ => not_mem_of_mergesInChain (by simp [named, operatorName])
  obtain ⟨posts, postsLatter, rfl, steps, stepsLatter⟩ := stepped.split
    fun _ _ _ => not_mem_of_mergesInStep (by simp [named, operatorName])
  obtain ⟨former, latter, rfl, unary, unaryLatter⟩ :=
    reduceUnary_split (by simp [named, operatorName]) finished
  exact ⟨former, latter, rfl,
    reduceOperands_eq_ok_iff.2 ⟨atoms, chains, posts, doneFormer, scan, steps, unary⟩,
    reduceOperands_eq_ok_iff.2 ⟨_, _, _, doneLatter, scanLatter, stepsLatter, unaryLatter⟩⟩

theorem reduceAt_append {levels : List (List BinaryOperator)}
    (foreign : ∀ level ∈ levels, (Item.ofNode node).operator? level = none) :
    reduceAt levels (left ++ .ofNode node :: right) =
      reduceAt levels left ++ .ofNode node :: reduceAt levels right := by
  induction levels with
  | nil => rfl
  | cons level levels ih =>
      have foreignHere := foreign level (by simp)
      have ih := ih fun level member => foreign level (by simp [member])
      rw [reduceAt, List.foldr_cons, ← reduceAt, ih]
      exact fromFirst_reduceLevel_eq_iff.2 <| (fromFirst_reduceLevel_eq_iff.1 rfl).separate
        (fun _ _ _ => not_mem_of_mergesInLevel foreignHere) (fun _ _ _ => ne_nil_of_mergesInLevel)
        (fromFirst_reduceLevel_eq_iff.1 rfl)

/-! ### Derivations -/

theorem IsAtom.reduces (atom : IsAtom Gives nodes expr) :
    ∃ made, reduceAtoms (itemsOf nodes) = .ok [.expr made] ∧ made.bare = expr := by
  cases atom with
  | @number node value named reads =>
      obtain ⟨isToken, named⟩ := named
      refine ⟨.literal (originOf node) (.number value), reduceAtoms_single ?_, rfl⟩
      simp [reduceAtom, Item.ofNode, isToken, named, reads]
  | @string node text named reads =>
      obtain ⟨isToken, named⟩ := named
      refine ⟨.literal (originOf node) (.string (String.ofList text)), reduceAtoms_single ?_, rfl⟩
      simp [reduceAtom, Item.ofNode, isToken, named, reads]
  | @identifier node named =>
      obtain ⟨isToken, named⟩ := named
      refine ⟨.symbol (originOf node) (String.ofList (textOf node)), reduceAtoms_single ?_, rfl⟩
      simp [reduceAtom, Item.ofNode, isToken, named]
  | @paren node inner named bracketed =>
      obtain ⟨isGroup, named⟩ := named
      obtain ⟨given, compiled, rfl⟩ := bracketed
      refine ⟨given.wrap (originOf node), reduceAtoms_single ?_, Expr.bare_wrap _ _⟩
      simp [reduceAtom, Item.ofNode, isGroup, named, compiled, Except.map]

theorem MergesInChain.call {value : Expr} {made : Except CompileError Expr}
    (named : node.IsGroupOf "call") (calls : callOf value node (compileInside node) = made) :
    MergesInChain value [.ofNode node] made :=
  calls ▸ .bracket (bracketOf?_of_call named _)

theorem MergesInChain.index {value : Expr} {made : Except CompileError Expr}
    (named : node.IsGroupOf "index") (indexes : indexOf value node (compileInside node) = made) :
    MergesInChain value [.ofNode node] made :=
  indexes ▸ .bracket (bracketOf?_of_index named _)

theorem IsChain.reduces (chain : IsChain Gives nodes expr) :
    ∃ atoms made, reduceAtoms (itemsOf nodes) = .ok atoms ∧
      ScansAll MergesInChain atoms [.expr made] ∧ made.bare = expr := by
  induction chain with
  | atom atom =>
      obtain ⟨made, done, same⟩ := atom.reduces
      exact ⟨_, made, done, .cons .last, same⟩
  | @member nodes object dot property chain dotted named ih =>
      obtain ⟨atoms, value, done, scanned, rfl⟩ := ih
      have keptDot := reduceAtoms_of_name dot (by simp [dotted.2])
      have keptProperty := reduceAtoms_of_name property (by simp [named.2])
      exact ⟨_, memberOf value dot property,
        reduceAtoms_append done (reduceAtoms_append keptDot keptProperty),
        scanned.merge (.member (Item.token?_ofNode dotted) (Item.token?_ofNode named)), rfl⟩
  | @callEmpty nodes callee node chain named holdsNothing ih =>
      obtain ⟨atoms, value, done, scanned, rfl⟩ := ih
      have kept := reduceAtoms_of_name node (by simp [named.2])
      refine ⟨_, .callEmpty (.spanning node.name value.origin (originOf node)) value,
        reduceAtoms_append done kept, scanned.merge (.call named ?_), rfl⟩
      simp [callOf, holdsNothing]
  | @call nodes callee node arguments chain named holdsSome bracketed ih =>
      obtain ⟨atoms, value, done, scanned, rfl⟩ := ih
      obtain ⟨given, compiled, rfl⟩ := bracketed
      have kept := reduceAtoms_of_name node (by simp [named.2])
      refine ⟨_, .call (.spanning node.name value.origin (originOf node)) value given,
        reduceAtoms_append done kept, scanned.merge (.call named ?_), rfl⟩
      simp [callOf, holdsSome, compiled, Except.map]
  | @index nodes object node key chain named bracketed ih =>
      obtain ⟨atoms, value, done, scanned, rfl⟩ := ih
      obtain ⟨given, compiled, rfl⟩ := bracketed
      have kept := reduceAtoms_of_name node (by simp [named.2])
      refine ⟨_, .index (.spanning node.name value.origin (originOf node)) value given,
        reduceAtoms_append done kept, scanned.merge (.index named ?_), rfl⟩
      simp [indexOf, compiled, Except.map]

/-- A chain stays as it is among the nodes that the pass for chains leaves alone. -/
theorem IsPost.reduces (post : IsPost Gives nodes expr) :
    ∃ atoms chains made, reduceAtoms (itemsOf nodes) = .ok atoms ∧
      ScansAll MergesInChain atoms chains ∧ ScansAll MergesInStep chains [.expr made] ∧
      made.bare = expr := by
  induction post with
  | chain chain =>
      obtain ⟨atoms, made, done, scanned, same⟩ := chain.reduces
      exact ⟨atoms, _, made, done, scanned, .cons .last, same⟩
  | @step nodes operand node step post named writes ih =>
      obtain ⟨atoms, chains, value, done, scanned, stepped, rfl⟩ := ih
      have kept := reduceAtoms_of_name node (by simp [named.2])
      have steps : stepOf value node =
          .ok (.stepAfter (.spanning node.name value.origin (originOf node)) step value) := by
        simp [stepOf, writes, Step.ofSymbol?_symbol]
      exact ⟨_, _, .stepAfter (.spanning node.name value.origin (originOf node)) step value,
        reduceAtoms_append done kept,
        scanned.separate (fun _ _ _ => not_mem_of_mergesInChain (by simp [named.2]))
          (fun _ _ _ => ne_nil_of_mergesInChain) .nil,
        stepped.merge (steps ▸ .step (Item.token?_ofNode named)), rfl⟩

theorem IsOperand.reduces (operand : IsOperand Gives nodes expr) :
    ∃ made, reduceOperands (itemsOf nodes) = .ok [.expr made] ∧ made.bare = expr := by
  simp only [reduceOperands_eq_ok_iff]
  induction operand with
  | post post =>
      obtain ⟨atoms, chains, made, done, scanned, stepped, same⟩ := post.reduces
      exact ⟨made, ⟨atoms, chains, _, done, scanned, stepped, rfl⟩, same⟩
  | @unary node nodes operator operand named writes behind ih =>
      obtain ⟨value, ⟨atoms, chains, posts, done, scanned, stepped, finished⟩, rfl⟩ := ih
      have kept := reduceAtoms_of_name node (by simp [named.2])
      have doneWith : reduceAtoms (itemsOf ([node] ++ nodes)) = .ok ([.ofNode node] ++ atoms) :=
        reduceAtoms_append kept done
      refine ⟨.unary (.spanning node.name (originOf node) value.origin) operator value,
        ⟨_, _, _, doneWith,
        ScansAll.nil.separate (fun _ _ _ => not_mem_of_mergesInChain (by simp [named.2]))
          (fun _ _ _ => ne_nil_of_mergesInChain) scanned,
        ScansAll.nil.separate (fun _ _ _ => not_mem_of_mergesInStep (by simp [named.2]))
          (fun _ _ _ => ne_nil_of_mergesInStep) stepped, ?_⟩, rfl⟩
      rw [List.nil_append, reduceUnary, finished, Item.token?_ofNode named]
      simp [unaryOf, writes, UnaryOperator.ofSymbol?_symbol, bind, Except.bind, pure, Except.pure]

/-- What has operators of some levels between its operands is reduced by the passes for these
levels, if no two levels share an operator. -/
theorem IsBinary.reduces {levels : List (List BinaryOperator)}
    (apart : levels.Pairwise fun outer inner => ∀ operator ∈ outer, operator ∉ inner)
    (binary : IsBinary Gives levels nodes expr) :
    ∃ operands made, reduceOperands (itemsOf nodes) = .ok operands ∧
      reduceAt levels operands = [.expr made] ∧ made.bare = expr := by
  induction binary with
  | operand operand =>
      obtain ⟨made, done, same⟩ := operand.reduces
      exact ⟨_, made, done, rfl, same⟩
  | tighter tighter ih =>
      obtain ⟨operands, made, done, reduced, same⟩ := ih (List.pairwise_cons.1 apart).2
      refine ⟨operands, made, done, ?_, same⟩
      rw [reduceAt, List.foldr_cons, ← reduceAt, reduced]
      rfl
  | @applied level levels nodes left node operator others right former among writes latter ihFormer
      ihLatter =>
      obtain ⟨operands, leftMade, done, reduced, rfl⟩ := ihFormer apart
      obtain ⟨operandsBehind, rightMade, doneBehind, reducedBehind, rfl⟩ :=
        ihLatter (List.pairwise_cons.1 apart).2
      -- The tighter levels come first and leave the operator as it is.
      have foreign : ∀ inner ∈ levels, (Item.ofNode node).operator? inner = none := by
        intro inner member
        apply Item.operator?_ofNode_eq_none writes
        intro other amongInner same
        rw [BinaryOperator.symbol_injective same] at amongInner
        exact (List.pairwise_cons.1 apart).1 inner member operator among amongInner
      refine ⟨_, binaryOf operator leftMade rightMade,
        reduceOperands_append writes.1 done doneBehind, ?_, rfl⟩
      rw [reduceAt, List.foldr_cons, ← reduceAt, reduceAt_append foreign, reducedBehind]
      rw [reduceAt, List.foldr_cons, ← reduceAt] at reduced
      exact fromFirst_reduceLevel_eq_iff.2 ((fromFirst_reduceLevel_eq_iff.1 reduced).merge
        (.binary (Item.operator?_eq_some_iff.2 ⟨among, node, _, rfl, writes⟩)))

end Parlance.Arithmetic
