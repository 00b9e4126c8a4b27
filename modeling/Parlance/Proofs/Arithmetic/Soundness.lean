import Parlance.Proofs.Arithmetic.Scan

/-!
# What the passes make is derived

A work list stands for the nodes it was made from, item by item: every item is a node that no pass has
touched, or it was made from some of the nodes. `Shows` states this for expressions derived from nodes
by one kind of derivation. Each pass takes a list that shows its nodes to one that shows the same nodes
by the next kind of derivation.
-/

namespace Parlance.Arithmetic

/-- The items stand for the nodes one group after the other, each for some nodes in a row. -/
inductive StandFor (stands : List Node → Item → Prop) : List Node → List Item → Prop where
  | nil : StandFor stands [] []
  | cons {nodes item others items} (here : stands nodes item)
      (rest : StandFor stands others items) : StandFor stands (nodes ++ others) (item :: items)

/-- The item is one of the nodes as it was, or an expression derived from the nodes. -/
inductive Shown (derives : List Node → Expr → Prop) : List Node → Item → Prop where
  | node (node : Node) : Shown derives [node] (.ofNode node)
  | made {nodes made} (derived : derives nodes made.bare) : Shown derives nodes (.expr made)

/-- The items show the nodes one group after the other. -/
abbrev Shows (derives : List Node → Expr → Prop) : List Node → List Item → Prop :=
  StandFor (Shown derives)

variable {stands further : List Node → Item → Prop} {derives widely : List Node → Expr → Prop}
  {nodes others : List Node} {item : Item} {items : List Item}

/-! ### Lists that stand for nodes -/

namespace StandFor

theorem mono (wider : ∀ nodes item, stands nodes item → further nodes item)
    (standing : StandFor stands nodes items) : StandFor further nodes items := by
  induction standing with
  | nil => exact .nil
  | cons here _ ih => exact .cons (wider _ _ here) ih

theorem single (standing : StandFor stands nodes [item]) : stands nodes item := by
  cases standing with
  | cons here rest =>
      cases rest
      rwa [List.append_nil]

theorem append {right : List Item} (former : StandFor stands nodes items)
    (latter : StandFor stands others right) : StandFor stands (nodes ++ others) (items ++ right) := by
  induction former with
  | nil => exact latter
  | cons here _ ih =>
      rw [List.append_assoc]
      exact .cons here ih

/-- The nodes of two lists in a row are those of the first list and then those of the second. -/
theorem split {left right : List Item} (standing : StandFor stands nodes (left ++ right)) :
    ∃ former latter, nodes = former ++ latter ∧ StandFor stands former left ∧
      StandFor stands latter right := by
  induction left generalizing nodes with
  | nil => exact ⟨[], nodes, rfl, .nil, standing⟩
  | cons item left ih =>
      cases standing with
      | cons here rest =>
          obtain ⟨former, latter, rfl, standsLeft, standsRight⟩ := ih rest
          exact ⟨_, latter, (List.append_assoc _ _ _).symm, .cons here standsLeft, standsRight⟩

end StandFor

/-! ### Lists that show derivations -/

theorem Shown.mono (wider : ∀ nodes expr, derives nodes expr → widely nodes expr)
    (shown : Shown derives nodes item) : Shown widely nodes item := by
  cases shown with
  | node node => exact .node node
  | made derived => exact .made (wider _ _ derived)

/-- An item that is a node shows this node and what compiling its inside gives. -/
theorem Shown.eq_of_raw {node : Node} {inside : Except CompileError Expr}
    (shown : Shown derives nodes (.raw node inside)) :
    nodes = [node] ∧ inside = compileInside node := by
  cases shown
  exact ⟨rfl, rfl⟩

theorem Shown.derived {made : Expr} (shown : Shown derives nodes (.expr made)) :
    derives nodes made.bare := by
  cases shown
  assumption

/-- A list of a single expression shows that it is derived from all the nodes. -/
theorem Shows.derived {made : Expr} (shows : Shows derives nodes [.expr made]) :
    derives nodes made.bare :=
  shows.single.derived

/-- An item of the list is one of the nodes or an expression. -/
theorem Shows.item_cases (shows : Shows derives nodes items) {item : Item} (member : item ∈ items) :
    (∃ node ∈ nodes, item = .ofNode node) ∨ ∃ made, item = .expr made := by
  induction shows with
  | nil => cases member
  | cons shown _ ih =>
      rcases List.mem_cons.1 member with rfl | member
      · cases shown with
        | node node => exact .inl ⟨node, by simp, rfl⟩
        | made _ => exact .inr ⟨_, rfl⟩
      · rcases ih member with ⟨node, among, rfl⟩ | made
        · exact .inl ⟨node, List.mem_append_right _ among, rfl⟩
        · exact .inr made

/-! ### Atoms -/

/-- What a literal, a name or a parenthesis becomes by itself. -/
inductive Atom : Node → Expr → Prop where
  | number {node value} (named : node.IsTokenOf "number")
      (reads : readNumber? (textOf node) = some value) :
      Atom node (.literal (originOf node) (.number value))
  | string {node text} (named : node.IsTokenOf "string")
      (reads : readString? (textOf node) = some text) :
      Atom node (.literal (originOf node) (.string (String.ofList text)))
  | identifier {node} (named : node.IsTokenOf "identifier") :
      Atom node (.symbol (originOf node) (String.ofList (textOf node)))
  | paren {node inner} (named : node.IsGroupOf "paren") (compiled : compileInside node = .ok inner) :
      Atom node (inner.wrap (originOf node))

/-- By itself, a node stays as it is or becomes an atom. -/
theorem reduceAtom_cases {node : Node} {item : Item} (done : reduceAtom (.ofNode node) = .ok item) :
    item = .ofNode node ∨ ∃ made, item = .expr made ∧ Atom node made := by
  simp only [reduceAtom, Item.ofNode] at done
  split at done
  · rename_i isToken
    split at done
    · rename_i named
      cases reads : readNumber? (textOf node) with
      | none => simp [reads] at done
      | some value =>
          simp only [reads, Except.ok.injEq] at done
          exact .inr ⟨_, done.symm, .number ⟨isToken, named⟩ reads⟩
    · rename_i named
      cases reads : readString? (textOf node) with
      | none => simp [reads] at done
      | some text =>
          simp only [reads, Except.ok.injEq] at done
          exact .inr ⟨_, done.symm, .string ⟨isToken, named⟩ reads⟩
    · rename_i named
      cases done
      exact .inr ⟨_, rfl, .identifier ⟨isToken, named⟩⟩
    · cases done
      exact .inl rfl
  · rename_i notToken
    split at done
    · rename_i named
      obtain ⟨inner, compiled, rfl⟩ := map_eq_ok_iff.1 done
      exact .inr ⟨_, rfl, .paren ⟨by simpa using notToken, named⟩ compiled⟩
    · cases done
      exact .inl rfl

theorem Atom.isAtom {node : Node} {made : Expr} (atom : Atom node made) :
    IsAtom Gives [node] made.bare := by
  cases atom with
  | number named reads => exact .number named reads
  | string named reads => exact .string named reads
  | identifier named => exact .identifier named
  | paren named compiled =>
      rw [Expr.bare_wrap]
      exact .paren named ⟨_, compiled, rfl⟩

theorem reduceAtom_shown {node : Node} {item : Item} (done : reduceAtom (.ofNode node) = .ok item) :
    Shown (IsAtom Gives) [node] item := by
  rcases reduceAtom_cases done with rfl | ⟨made, rfl, atom⟩
  · exact .node node
  · exact .made atom.isAtom

/-- If every node by itself becomes what it stands for, so do all nodes in a row. -/
theorem reduceAtoms_standFor
    (single : ∀ {node item}, reduceAtom (.ofNode node) = .ok item → stands [node] item)
    (done : reduceAtoms (itemsOf nodes) = .ok items) : StandFor stands nodes items := by
  induction nodes generalizing items with
  | nil =>
      cases done
      exact .nil
  | cons node rest ih =>
      rw [reduceAtoms, itemsOf, List.mapM_cons] at done
      obtain ⟨item, first, done⟩ := bind_eq_ok_iff.1 done
      obtain ⟨others, behind, done⟩ := bind_eq_ok_iff.1 done
      cases done
      exact .cons (single first) (ih behind)

theorem reduceAtoms_shows (done : reduceAtoms (itemsOf nodes) = .ok items) :
    Shows (IsAtom Gives) nodes items :=
  reduceAtoms_standFor reduceAtom_shown done

/-! ### Scans -/

/-- If merging keeps to what expressions stand for, so does the scan. -/
theorem Scans.standFor {merges : Merging} {current : Item} {rest : List Item}
    (wider : ∀ nodes item, stands nodes item → further nodes item)
    (goesOn : ∀ {nodes others value taken made}, further nodes (.expr value) →
      StandFor stands others taken → merges value taken (.ok made) →
      further (nodes ++ others) (.expr made))
    (scan : Scans merges current rest items) (here : further nodes current)
    (standing : StandFor stands others rest) : StandFor further (nodes ++ others) items := by
  induction scan generalizing nodes others with
  | last =>
      cases standing
      exact .cons here .nil
  | merge merged _ ih =>
      obtain ⟨former, latter, rfl, standsTaken, standsRest⟩ := standing.split
      rw [← List.append_assoc]
      exact ih (goesOn here standsTaken merged) standsRest
  | keep _ _ ih =>
      cases standing with
      | cons next rest => exact .cons here (ih (wider _ _ next) rest)

theorem ScansAll.standFor {merges : Merging} {scanned : List Item}
    (wider : ∀ nodes item, stands nodes item → further nodes item)
    (goesOn : ∀ {nodes others value taken made}, further nodes (.expr value) →
      StandFor stands others taken → merges value taken (.ok made) →
      further (nodes ++ others) (.expr made))
    (scan : ScansAll merges items scanned) (standing : StandFor stands nodes items) :
    StandFor further nodes scanned := by
  cases scan with
  | nil =>
      cases standing
      exact .nil
  | cons scan =>
      cases standing with
      | cons here rest => exact scan.standFor wider goesOn (wider _ _ here) rest

/-- If merging goes on with a derivation, so does the scan. -/
theorem ScansAll.shows {merges : Merging} {scanned : List Item}
    (wider : ∀ nodes expr, derives nodes expr → widely nodes expr)
    (goesOn : ∀ {nodes others value taken made}, widely nodes value.bare →
      Shows derives others taken → merges value taken (.ok made) →
      widely (nodes ++ others) made.bare)
    (scan : ScansAll merges items scanned) (shows : Shows derives nodes items) :
    Shows widely nodes scanned :=
  scan.standFor (fun _ _ => .mono wider)
    (fun shown taken merged => .made (goesOn shown.derived taken merged)) shows

/-- Items that are nodes stand for themselves, with what compiling their insides gives. -/
def KeepsNodes (stands : List Node → Item → Prop) : Prop :=
  ∀ {nodes node inside}, stands nodes (.raw node inside) → nodes = [node] ∧ inside = compileInside node

theorem shown_keepsNodes : KeepsNodes (Shown derives) := Shown.eq_of_raw

/-- The only node that an item with a token stands for is that token. -/
theorem StandFor.of_token (keeps : KeepsNodes stands) {name : String} {node : Node}
    (found : item.token? name = some node) (standing : StandFor stands nodes (item :: items)) :
    node.IsTokenOf name ∧ ∃ others, nodes = node :: others ∧ StandFor stands others items := by
  obtain ⟨named, inside, rfl⟩ := Item.token?_eq_some_iff.1 found
  cases standing with
  | cons here rest =>
      obtain ⟨rfl, _⟩ := keeps here
      exact ⟨named, _, rfl, rest⟩

/-- A node that is an item of the list is one of those that the list stands for. -/
theorem StandFor.mem_of_raw (keeps : KeepsNodes stands) (standing : StandFor stands nodes items)
    {node : Node} {inside : Except CompileError Expr} (member : .raw node inside ∈ items) :
    node ∈ nodes := by
  induction standing with
  | nil => cases member
  | cons here _ ih =>
      rcases List.mem_cons.1 member with rfl | member
      · obtain ⟨rfl, _⟩ := keeps here
        simp
      · exact List.mem_append_right _ (ih member)

/-- What a value becomes with a member, a call or an index behind it. -/
inductive Link : Expr → List Node → Expr → Prop where
  | member {value dot property} (dotted : dot.IsTokenOf "dot")
      (named : property.IsTokenOf "property") : Link value [dot, property] (memberOf value dot property)
  | callEmpty {value node} (named : node.IsGroupOf "call") (holdsNothing : node.children = []) :
      Link value [node] (.callEmpty (.spanning node.name value.origin (originOf node)) value)
  | call {value node arguments} (named : node.IsGroupOf "call") (holdsSome : node.children ≠ [])
      (compiled : compileInside node = .ok arguments) :
      Link value [node] (.call (.spanning node.name value.origin (originOf node)) value arguments)
  | index {value node key} (named : node.IsGroupOf "index")
      (compiled : compileInside node = .ok key) :
      Link value [node] (.index (.spanning node.name value.origin (originOf node)) value key)

/-- In a chain, a value merges with links. -/
theorem MergesInChain.link (keeps : KeepsNodes stands) {value made : Expr} {taken : List Item}
    (merged : MergesInChain value taken (.ok made)) (standing : StandFor stands nodes taken) :
    Link value nodes made := by
  generalize outcome : Except.ok made = result at merged
  cases merged with
  | member dotted named =>
      cases outcome
      obtain ⟨isDot, _, rfl, behind⟩ := standing.of_token keeps dotted
      obtain ⟨isProperty, _, rfl, nothing⟩ := behind.of_token keeps named
      cases nothing
      exact .member isDot isProperty
  | bracket found =>
      obtain ⟨node, inside, rfl, bracket⟩ := bracketOf?_cases found
      obtain ⟨rfl, rfl⟩ := keeps standing.single
      rcases bracket with ⟨isCall, rfl⟩ | ⟨isIndex, rfl⟩
      · by_cases holdsNothing : node.children.isEmpty = true
        · simp only [callOf, holdsNothing, if_true, Except.ok.injEq] at outcome
          subst outcome
          exact .callEmpty isCall (List.isEmpty_iff.1 holdsNothing)
        · rw [callOf, if_neg holdsNothing] at outcome
          obtain ⟨arguments, compiled, rfl⟩ := map_eq_ok_iff.1 outcome.symm
          exact .call isCall (by simpa using holdsNothing) compiled
      · obtain ⟨key, compiled, rfl⟩ := map_eq_ok_iff.1 outcome.symm
        exact .index isIndex compiled

/-- An operand merges with the token of a step. -/
theorem MergesInStep.eq_stepAfter (keeps : KeepsNodes stands) {operand made : Expr}
    {taken : List Item} (merged : MergesInStep operand taken (.ok made))
    (standing : StandFor stands nodes taken) :
    ∃ node step, nodes = [node] ∧ node.IsTokenOf "postfix" ∧ textOf node = step.symbol.toList ∧
      made = .stepAfter (.spanning node.name operand.origin (originOf node)) step operand := by
  generalize outcome : Except.ok made = result at merged
  cases merged with
  | @step _ item node found =>
      obtain ⟨isStep, _, rfl, nothing⟩ := standing.of_token keeps found
      cases nothing
      cases writes : Step.ofSymbol? (String.ofList (textOf node)) with
      | none => simp [stepOf, writes] at outcome
      | some step =>
          simp only [stepOf, writes, Except.ok.injEq] at outcome
          have symbol := Step.ofSymbol?_eq_some_iff.1 writes
          exact ⟨node, step, rfl, isStep, by simp [← symbol], outcome⟩

/-- A left operand merges with an operator of the level and the operand behind it. -/
theorem MergesInLevel.eq_binaryOf (keeps : KeepsNodes stands) {level : List BinaryOperator}
    {left made : Expr} {taken : List Item} (merged : MergesInLevel level left taken (.ok made))
    (standing : StandFor stands nodes taken) :
    ∃ node operator others right, nodes = node :: others ∧ operator ∈ level ∧
      node.WritesBetween operator.symbol ∧ stands others (.expr right) ∧
      made = binaryOf operator left right := by
  cases merged with
  | binary found =>
      obtain ⟨among, node, inside, rfl, writes⟩ := Item.operator?_eq_some_iff.1 found
      cases standing with
      | cons here rest =>
          obtain ⟨rfl, _⟩ := keeps here
          exact ⟨_, _, _, _, rfl, among, writes, rest.single, rfl⟩

/-- An operator in front of an operand is the one that its token writes. -/
theorem eq_unary_of_unaryOf {node : Node} {operand made : Expr} (done : unaryOf node operand = .ok made) :
    ∃ operator, textOf node = operator.symbol.toList ∧
      made = .unary (.spanning node.name (originOf node) operand.origin) operator operand := by
  cases writes : UnaryOperator.ofSymbol? (String.ofList (textOf node)) with
  | none => simp [unaryOf, writes] at done
  | some operator =>
      simp only [unaryOf, writes, Except.ok.injEq] at done
      have symbol := UnaryOperator.ofSymbol?_eq_some_iff.1 writes
      exact ⟨operator, by simp [← symbol], done.symm⟩

/-! ### Derivations that go on -/

/-- A member, a call or an index goes on with the chain in front of it. -/
theorem IsChain.merge {value made : Expr} {taken : List Item}
    (chain : IsChain Gives nodes value.bare) (shows : Shows (IsAtom Gives) others taken)
    (merged : MergesInChain value taken (.ok made)) :
    IsChain Gives (nodes ++ others) made.bare := by
  cases merged.link shown_keepsNodes shows with
  | member dotted named => exact .member chain dotted named
  | callEmpty named holdsNothing => exact .callEmpty chain named holdsNothing
  | call named holdsSome compiled => exact .call chain named holdsSome ⟨_, compiled, rfl⟩
  | index named compiled => exact .index chain named ⟨_, compiled, rfl⟩

/-- A step goes on with the steps in front of it. -/
theorem IsPost.merge {operand made : Expr} {taken : List Item}
    (post : IsPost Gives nodes operand.bare) (shows : Shows (IsChain Gives) others taken)
    (merged : MergesInStep operand taken (.ok made)) :
    IsPost Gives (nodes ++ others) made.bare := by
  obtain ⟨node, step, rfl, named, writes, rfl⟩ := merged.eq_stepAfter shown_keepsNodes shows
  exact .step post named writes

/-- An operator with its right operand goes on with the operands in front of it. -/
theorem IsBinary.merge {level : List BinaryOperator} {levels : List (List BinaryOperator)}
    {left made : Expr} {taken : List Item}
    (former : IsBinary Gives (level :: levels) nodes left.bare)
    (shows : Shows (IsBinary Gives levels) others taken)
    (merged : MergesInLevel level left taken (.ok made)) :
    IsBinary Gives (level :: levels) (nodes ++ others) made.bare := by
  obtain ⟨node, operator, behind, right, rfl, among, writes, shown, rfl⟩ :=
    merged.eq_binaryOf shown_keepsNodes shows
  exact .applied former among writes shown.derived

/-- An operator goes on in front of an operand. -/
theorem IsOperand.merge {node : Node} {operand made : Expr}
    (behind : IsOperand Gives nodes operand.bare) (isPrefix : node.IsTokenOf "prefix")
    (done : unaryOf node operand = .ok made) : IsOperand Gives (node :: nodes) made.bare := by
  obtain ⟨operator, writes, rfl⟩ := eq_unary_of_unaryOf done
  exact .unary isPrefix writes behind

/-- If operators go on in front of what operands stand for, so does their pass. -/
theorem reduceUnary_standFor (keeps : KeepsNodes stands)
    (wider : ∀ nodes item, stands nodes item → further nodes item)
    (goesOn : ∀ {node nodes operand made}, further nodes (.expr operand) → node.IsTokenOf "prefix" →
      unaryOf node operand = .ok made → further (node :: nodes) (.expr made))
    (standing : StandFor stands nodes items) {reduced : List Item}
    (done : reduceUnary items = .ok reduced) : StandFor further nodes reduced := by
  induction items generalizing nodes reduced with
  | nil =>
      cases done
      cases standing
      exact .nil
  | cons item rest ih =>
      obtain ⟨behind, doneBehind, finished⟩ := bind_eq_ok_iff.1 done
      split at finished
      · rename_i node operand others found
        obtain ⟨isPrefix, latter, rfl, standsRest⟩ := standing.of_token keeps found
        obtain ⟨made, merged, rest_eq⟩ := bind_eq_ok_iff.1 finished
        cases rest_eq
        cases ih standsRest doneBehind with
        | cons here others => exact .cons (goesOn here isPrefix merged) others
      · cases finished
        cases standing with
        | cons here others => exact .cons (wider _ _ here) (ih others doneBehind)

theorem reduceUnary_shows (shows : Shows (IsPost Gives) nodes items) {reduced : List Item}
    (done : reduceUnary items = .ok reduced) : Shows (IsOperand Gives) nodes reduced :=
  reduceUnary_standFor shown_keepsNodes (fun _ _ => .mono fun _ _ => .post)
    (fun shown isPrefix merged => .made (shown.derived.merge isPrefix merged)) shows done

/-! ### All passes -/

/-- The passes up to the operators in front of operands show operands. -/
theorem reduceOperands_shows (done : reduceOperands (itemsOf nodes) = .ok items) :
    Shows (IsOperand Gives) nodes items := by
  obtain ⟨atoms, chains, posts, done, scanned, stepped, finished⟩ := reduceOperands_eq_ok_iff.1 done
  have showsChains : Shows (IsChain Gives) nodes chains :=
    scanned.shows (fun _ _ => .atom) IsChain.merge (reduceAtoms_shows done)
  have showsPosts : Shows (IsPost Gives) nodes posts :=
    stepped.shows (fun _ _ => .chain) IsPost.merge showsChains
  exact reduceUnary_shows showsPosts finished

/-- The passes for some levels show operands with the operators of these levels between them. -/
theorem reduceAt_shows (levels : List (List BinaryOperator))
    (shows : Shows (IsOperand Gives) nodes items) :
    Shows (IsBinary Gives levels) nodes (reduceAt levels items) := by
  induction levels with
  | nil => exact shows.mono fun _ _ => .mono fun _ _ => .operand
  | cons level levels ih =>
      exact (fromFirst_reduceLevel_eq_iff.1 rfl).shows (fun _ _ => .tighter) IsBinary.merge ih

/-- A list with an expression left over is that expression alone. -/
theorem eq_of_finish {origin : Origin} {made : Expr} (done : finish items origin = .ok made) :
    items = [.expr made] := by
  unfold finish at done
  split at done
  · cases done
  · split at done
    · cases done
      rfl
    · cases done

end Parlance.Arithmetic
