import Parlance.Proofs.Arithmetic.Pairing
import Parlance.Proofs.Arithmetic.Precedence

/-!
# Ternaries of nodes

The grammar of ternaries over the values of a level of brackets: a value, or a condition with its two
branches. Nodes that derive a tree are compiled, but to the value of the tree only if the false
branches keep pace with the true ones. Values and marks that derive no tree are an incomplete
ternary.
-/

namespace Parlance.Arithmetic

section

variable (inside : Node → Expr → Prop)

/-- A value, or a condition with a ternary in each branch. -/
inductive IsTernary : List Node → Ternary Expr → Prop where
  | operand {nodes expr} (value : IsValue inside nodes expr) : IsTernary nodes (.operand expr)
  | branch {nodes condition question truthyNodes truthy colon falsyNodes falsy}
      (value : IsValue inside nodes condition) (opens : question.WritesBetween "?")
      (between : IsTernary truthyNodes truthy) (closes : colon.WritesBetween ":")
      (behind : IsTernary falsyNodes falsy) :
      IsTernary (nodes ++ question :: (truthyNodes ++ colon :: falsyNodes))
        (.branch condition truthy falsy)

/-- Values with question marks and colons between them, in any order. -/
inductive IsRow : List Node → Row Expr → Prop where
  | last {nodes expr} (value : IsValue inside nodes expr) : IsRow nodes (.last expr)
  | link {nodes expr node mark others rest} (value : IsValue inside nodes expr)
      (writes : node.WritesBetween (Mark.symbol mark)) (behind : IsRow others rest) :
      IsRow (nodes ++ node :: others) (.link expr mark rest)

end

variable {inside : Node → Expr → Prop} {node : Node} {nodes others : List Node}
  {tree : Ternary Expr} {row rest : Row Expr} {mark : Mark}

/-! ### Trees and rows of nodes -/

theorem IsRow.before (former : IsRow inside nodes row) (writes : node.WritesBetween mark.symbol)
    (latter : IsRow inside others rest) :
    IsRow inside (nodes ++ node :: others) (row.before mark rest) := by
  induction former with
  | last value => exact .link value writes latter
  | link value writesFirst _ ih =>
      rw [List.append_assoc, List.cons_append]
      exact .link value writesFirst ih

theorem IsRow.split (spelled : IsRow inside nodes (row.before mark rest)) :
    ∃ former node latter, nodes = former ++ node :: latter ∧ IsRow inside former row ∧
      node.WritesBetween mark.symbol ∧ IsRow inside latter rest := by
  induction row generalizing nodes with
  | last value =>
      cases spelled with
      | link value writes behind => exact ⟨_, _, _, rfl, .last value, writes, behind⟩
  | link value first inner ih =>
      cases spelled with
      | link value writesFirst behind =>
          obtain ⟨former, node, latter, rfl, spelledFormer, writes, spelledLatter⟩ := ih behind
          exact ⟨_, node, latter, by simp, .link value writesFirst spelledFormer, writes,
            spelledLatter⟩

/-- A tree is derived from the nodes that spell its row, and from no others. -/
theorem isTernary_iff_isRow : IsTernary inside nodes tree ↔ IsRow inside nodes tree.row := by
  constructor
  · intro derived
    induction derived with
    | operand value => exact .last value
    | branch value opens _ closes _ ihTruthy ihFalsy =>
        exact .link value opens (IsRow.before ihTruthy closes ihFalsy)
  · intro spelled
    induction tree generalizing nodes with
    | operand value =>
        cases spelled with
        | last value => exact .operand value
    | branch condition truthy falsy ihTruthy ihFalsy =>
        cases spelled with
        | link value opens behind =>
            obtain ⟨_, _, _, rfl, spelledTruthy, closes, spelledFalsy⟩ := behind.split
            exact .branch value opens (ihTruthy spelledTruthy) closes (ihFalsy spelledFalsy)

/-! ### Work lists of nodes -/

/-- The passes up to the ternaries make the row that the nodes spell. -/
theorem IsRow.reduces (spelled : IsRow Gives nodes row) :
    ∃ operands made, reduceOperands (itemsOf nodes) = .ok operands ∧
      Lists made (reduceAt BinaryOperator.levels.reverse operands) ∧ made.map Expr.bare = row := by
  have apart := (List.pairwise_cons.1 levels_apart).2
  induction spelled with
  | last value =>
      obtain ⟨operands, made, done, reduced, rfl⟩ := value.reduces apart
      exact ⟨operands, .last made, done, reduced ▸ .last, rfl⟩
  | @link nodes expr node mark others rest value writes behind ih =>
      obtain ⟨operands, first, done, reduced, rfl⟩ := value.reduces apart
      obtain ⟨operandsBehind, made, doneBehind, lists, rfl⟩ := ih
      have foreign : ∀ level ∈ BinaryOperator.levels.reverse,
          (Item.ofNode node).operator? level = none := fun level _ =>
        Item.operator?_ofNode_eq_none writes fun operator _ => mark_foreign operator mark
      have marks : mark.Marks (.ofNode node) := Item.symbol?_eq_some_iff.2 ⟨node, _, rfl, writes⟩
      refine ⟨_, .link first mark made, reduceOperands_append writes.1 done doneBehind, ?_, rfl⟩
      rw [reduceAt_append foreign, reduced]
      exact .link marks lists

/-- Nodes that derive a tree compile to what the passes make of the tree. -/
theorem IsTernary.gives (derived : IsTernary Gives node.children tree) :
    ∃ expr, Gives node expr ∧ tree.Settles (.ternary .nowhere) expr := by
  obtain ⟨operands, made, done, lists, same⟩ := (isTernary_iff_isRow.1 derived).reduces
  -- The values of the work list have origins, so what spells the tree is their row without them.
  have balanced : made.Balanced 0 := by
    rw [← Row.balanced_map Expr.bare, same]
    exact Row.balanced_row tree
  obtain ⟨joinedTree, rfl⟩ := Row.exists_tree balanced
  rw [Row.map_row] at same
  obtain rfl := Row.row_injective same
  obtain ⟨expr, settles⟩ : ∃ expr, joinedTree.Settles joined expr := Ternary.exists_settles _
  have enough : joinedTree.branches ≤ (reduceAt BinaryOperator.levels.reverse operands).length := by
    rw [lists.length_eq, Row.length_row]
    omega
  refine ⟨expr.bare, ⟨expr, ?_, rfl⟩, settles.map fun _ _ _ => rfl⟩
  refine compileInside_eq_ok_iff.2 ⟨operands, _, done, rfl, ?_⟩
  rw [settles.reduces enough lists]
  rfl

/-- Nodes spell at most one row. -/
theorem IsRow.unique {other : Row Expr} (spelled : IsRow Gives nodes row)
    (again : IsRow Gives nodes other) : other = row := by
  obtain ⟨operands, made, done, lists, rfl⟩ := spelled.reduces
  obtain ⟨_, _, doneAgain, listsAgain, rfl⟩ := again.reduces
  obtain rfl := Except.ok.inj (done.symm.trans doneAgain)
  rw [lists.unique listsAgain]

/-- A row that derives no tree is not balanced, so a mark is left over. -/
theorem IsRow.incomplete (spelled : IsRow Gives node.children row)
    (underivable : ∀ tree, ¬IsTernary Gives node.children tree) :
    ∃ offset, compileInside node = .error (.incompleteTernary offset) := by
  obtain ⟨operands, made, done, lists, rfl⟩ := spelled.reduces
  have unbalanced : ¬made.Balanced 0 := by
    intro balanced
    obtain ⟨tree, rfl⟩ := Row.exists_tree balanced
    rw [Row.map_row] at spelled
    exact underivable _ (isTernary_iff_isRow.2 spelled)
  obtain ⟨reduced, listsReduced, balanced⟩ :=
    lists.reduceTernaries (reduceAt BinaryOperator.levels.reverse operands).length
  rw [compileInside_eq, reduce_eq, done]
  obtain ⟨offset, finished⟩ := listsReduced.finish_eq (mt balanced.1 unbalanced)
  refine ⟨offset, ?_⟩
  rw [← listsReduced.reduceLevel_eq [.comma]] at finished
  exact finished

/-- Conditions and branches are smaller than the ternary. -/
theorem sizeOf_lt_ternary (condition truthy falsy : Expr) :
    sizeOf condition < sizeOf (Expr.ternary .nowhere condition truthy falsy) := by
  simp only [Expr.ternary.sizeOf_spec]
  omega

/-! ### Rows of names -/

theorem IsOperand.isBinary {expr : Expr} (operand : IsOperand inside nodes expr)
    (levels : List (List BinaryOperator)) : IsBinary inside levels nodes expr := by
  induction levels with
  | nil => exact .operand operand
  | cons level levels ih => exact .tighter ih

/-- The name that a node is. -/
def name? (node : Node) : Option String :=
  if node.isToken && node.name == "identifier" then some (String.ofList (textOf node)) else none

/-- The mark that a node writes. -/
def mark? (node : Node) : Option Mark :=
  if node.WritesBetween "?" then some .question
  else if node.WritesBetween ":" then some .colon
  else none

/-- The row of names that the nodes spell. -/
def names? : List Node → Option (Row String)
  | [] => none
  | [node] => (name? node).map .last
  | node :: between :: others => do
      return .link (← name? node) (← mark? between) (← names? others)

theorem isValue_of_name? {name : String} (read : name? node = some name) :
    IsValue inside [node] (.symbol .nowhere name) := by
  rw [name?, Option.ite_none_right_eq_some, Bool.and_eq_true, beq_iff_eq, Option.some.injEq] at read
  obtain ⟨named, rfl⟩ := read
  exact IsOperand.isBinary (.post (.chain (.atom (.identifier named)))) _

theorem writesBetween_of_mark? (read : mark? node = some mark) :
    node.WritesBetween mark.symbol := by
  unfold mark? at read
  split at read
  · cases read
    assumption
  · split at read
    · cases read
      assumption
    · cases read

theorem isRow_of_names? {names : Row String} (read : names? nodes = some names) :
    IsRow inside nodes (names.map (.symbol .nowhere)) := by
  fun_induction names? nodes generalizing names with
  | case1 => cases read
  | case2 node =>
      obtain ⟨name, named, rfl⟩ := Option.map_eq_some_iff.1 read
      exact .last (isValue_of_name? named)
  | case3 node between others ih =>
      simp only [Option.bind_eq_bind, Option.bind_eq_some_iff, Option.pure_def,
        Option.some.injEq] at read
      obtain ⟨name, named, mark, marked, rest, behind, rfl⟩ := read
      exact .link (isValue_of_name? named) (writesBetween_of_mark? marked) (ih behind)

/-- The row of names that a source consists of. -/
def namesOf? (source : Text) : Option (Row String) :=
  (grammar.parse .plain source).toOption.bind fun tree => names? tree.children

theorem isRow_of_namesOf? {source : Text} {names : Row String}
    (read : namesOf? source = some names) :
    ∃ tree, grammar.parse .plain source = .ok tree ∧
      IsRow Gives tree.children (names.map (.symbol .nowhere)) := by
  obtain ⟨tree, parsed, read⟩ := Option.bind_eq_some_iff.1 read
  cases result : grammar.parse .plain source with
  | error error =>
      rw [result] at parsed
      cases parsed
  | ok other =>
      rw [result] at parsed
      cases parsed
      exact ⟨tree, rfl, isRow_of_names? read⟩

theorem isTernary_of_namesOf? {source : Text} {names : Ternary String}
    (read : namesOf? source = some names.row) :
    ∃ tree, grammar.parse .plain source = .ok tree ∧
      IsTernary Gives tree.children (names.map (.symbol .nowhere)) := by
  obtain ⟨tree, parsed, spelled⟩ := isRow_of_namesOf? read
  rw [Row.map_row] at spelled
  exact ⟨tree, parsed, isTernary_iff_isRow.2 spelled⟩

/-! ### Pairing -/

/-- Values with question marks and colons between them compile if they derive a tree, which then is
the only one, and they compile to its value exactly if no false branch in the tree takes more than
one pass longer than the true branch beside it. If they derive none, they are an incomplete
ternary. -/
theorem gives_value_iff_keepsPace (spelled : IsRow Gives node.children row) :
    (∀ tree, IsTernary Gives node.children tree → (∃ expr, Gives node expr) ∧
      (Gives node (tree.value (.ternary .nowhere)) ↔ tree.KeepsPace) ∧
      ∀ other, IsTernary Gives node.children other → other = tree) ∧
    ((∀ tree, ¬IsTernary Gives node.children tree) →
      ∃ offset, compileInside node = .error (.incompleteTernary offset)) := by
  refine ⟨?_, spelled.incomplete⟩
  intro tree derived
  obtain ⟨expr, gives, settles⟩ := derived.gives
  have exact : expr = tree.value (.ternary .nowhere) ↔ tree.KeepsPace :=
    settles.eq_value_iff sizeOf_lt_ternary fun same => (Expr.ternary.inj same).2
  refine ⟨⟨expr, gives⟩, ?_, ?_⟩
  · rw [← exact]
    constructor
    · rintro ⟨made, compiled, value⟩
      obtain ⟨again, compiledAgain, rfl⟩ := gives
      rw [compiled] at compiledAgain
      rw [← Except.ok.inj compiledAgain, value]
    · rintro rfl
      exact gives
  · intro other again
    exact Row.row_injective
      (IsRow.unique (isTernary_iff_isRow.1 derived) (isTernary_iff_isRow.1 again))

theorem gives_value_of_names :
    (∃ tree, grammar.parse .plain "a ? b ? c : d : e ? f : g".toList = .ok tree ∧
      Gives tree (Ternary.value (.ternary .nowhere) (Ternary.map (.symbol .nowhere)
        (.branch "a" (.branch "b" (.operand "c") (.operand "d"))
          (.branch "e" (.operand "f") (.operand "g")))))) ∧
    ∃ tree offset, grammar.parse .plain "a : b ? c".toList = .ok tree ∧
      compileInside tree = .error (.incompleteTernary offset) := by
  constructor
  · have read : namesOf? "a ? b ? c : d : e ? f : g".toList = some (Ternary.row
        (.branch "a" (.branch "b" (.operand "c") (.operand "d"))
          (.branch "e" (.operand "f") (.operand "g")))) := by
      decide +kernel
    obtain ⟨tree, parsed, derived⟩ := isTernary_of_namesOf? read
    have spelled := isTernary_iff_isRow.1 derived
    refine ⟨tree, parsed, ((gives_value_iff_keepsPace spelled).1 _ derived).2.1.2 ?_⟩
    decide
  · have read : namesOf? "a : b ? c".toList =
        some (.link "a" .colon (.link "b" .question (.last "c"))) := by
      decide +kernel
    obtain ⟨tree, parsed, spelled⟩ := isRow_of_namesOf? read
    have underivable : ∀ other, ¬IsTernary Gives tree.children other := by
      intro other derived
      have balanced := Row.balanced_row other
      rw [spelled.unique (isTernary_iff_isRow.1 derived)] at balanced
      exact balanced
    obtain ⟨offset, compiled⟩ := (gives_value_iff_keepsPace spelled).2 underivable
    exact ⟨tree, offset, parsed, compiled⟩

/-- A ternary in the true branch of one in a false branch is late: the condition takes the false
branch's own condition along, and what compiles is `(a ? b : c) ? (d ? e : f) : g`. -/
theorem not_gives_value_of_late :
    ∃ tree, grammar.parse .plain "a ? b : c ? d ? e : f : g".toList = .ok tree ∧
      IsTernary Gives tree.children (Ternary.map (.symbol .nowhere)
        (.branch "a" (.operand "b")
          (.branch "c" (.branch "d" (.operand "e") (.operand "f")) (.operand "g")))) ∧
      ¬Gives tree (Ternary.value (.ternary .nowhere) (Ternary.map (.symbol .nowhere)
        (.branch "a" (.operand "b")
          (.branch "c" (.branch "d" (.operand "e") (.operand "f")) (.operand "g"))))) := by
  have read : namesOf? "a ? b : c ? d ? e : f : g".toList = some (Ternary.row
      (.branch "a" (.operand "b")
        (.branch "c" (.branch "d" (.operand "e") (.operand "f")) (.operand "g")))) := by
    decide +kernel
  have nested : (match compile "a ? b : c ? d ? e : f : g".toList with
      | .ok (.ternary _ (.ternary ..) _ _) => true
      | _ => false) = true := by
    decide +kernel
  obtain ⟨tree, parsed, derived⟩ := isTernary_of_namesOf? read
  refine ⟨tree, parsed, derived, ?_⟩
  rintro ⟨made, compiled, bare⟩
  have compiles : compile "a ? b : c ? d ? e : f : g".toList = .ok made := by
    rw [compile, parsed]
    exact compiled
  rw [compiles] at nested
  split at nested
  · rename_i same
    cases same
    cases bare
  · cases nested

end Parlance.Arithmetic
