import Parlance.Proofs.Arithmetic.Derivation
import Parlance.Proofs.Outcome

/-!
# Items and operators

What the tests of the passes say about an item, and which symbols write which operators. The passes
up to the operators in front of operands are put together as `reduceOperands`, and the levels of
operators between operands as `reduceAt`, which can be taken for any levels.
-/

namespace Parlance

namespace Step

/-- A symbol writes a step exactly if it is the symbol of the step. -/
theorem ofSymbol?_eq_some_iff {symbol : String} {step : Step} :
    ofSymbol? symbol = some step ↔ symbol = step.symbol := by
  constructor
  · intro writes
    unfold ofSymbol? at writes
    split at writes <;> cases writes <;> rfl
  · rintro rfl
    exact ofSymbol?_symbol step

end Step

namespace UnaryOperator

/-- A symbol writes an operator exactly if it is the symbol of the operator. -/
theorem ofSymbol?_eq_some_iff {symbol : String} {operator : UnaryOperator} :
    ofSymbol? symbol = some operator ↔ symbol = operator.symbol := by
  constructor
  · intro writes
    unfold ofSymbol? at writes
    split at writes <;> cases writes <;> rfl
  · rintro rfl
    exact ofSymbol?_symbol operator

end UnaryOperator

namespace BinaryOperator

theorem ofSymbolAmong?_all (operator : BinaryOperator) :
    ofSymbolAmong? all operator.symbol = some operator := by
  cases operator <;> rfl

/-- Different operators have different symbols. -/
theorem symbol_injective {left right : BinaryOperator} (same : left.symbol = right.symbol) :
    left = right := by
  have found := ofSymbolAmong?_all left
  rw [same, ofSymbolAmong?_all right] at found
  exact (Option.some.inj found).symm

/-- A symbol writes one of some operators exactly if it is the symbol of that one. -/
theorem ofSymbolAmong?_eq_some_iff {operators : List BinaryOperator} {symbol : String}
    {operator : BinaryOperator} :
    ofSymbolAmong? operators symbol = some operator ↔
      operator ∈ operators ∧ operator.symbol = symbol := by
  constructor
  · intro found
    exact ⟨List.mem_of_find?_eq_some found, by simpa using List.find?_some found⟩
  · rintro ⟨member, rfl⟩
    cases found : ofSymbolAmong? operators operator.symbol with
    | none =>
        have missed := List.find?_eq_none.1 found operator member
        simp at missed
    | some other =>
        have same : other.symbol = operator.symbol := by simpa using List.find?_some found
        rw [symbol_injective same]

end BinaryOperator

namespace Arithmetic

/-- What compiling the inside of the node gives, without origins. -/
def Gives (node : Node) (expr : Expr) : Prop :=
  ∃ made, compileInside node = .ok made ∧ made.bare = expr

namespace Item

/-- The item of a node before any pass. -/
def ofNode (node : Node) : Item := raw node (compileInside node)

variable {item : Item} {node : Node}

theorem token?_eq_some_iff {name : String} :
    item.token? name = some node ↔ node.IsTokenOf name ∧ ∃ inside, item = raw node inside := by
  cases item with
  | raw other inside =>
      by_cases matching : other.isToken = true ∧ other.name = name
      · simp only [token?, matching, Bool.and_eq_true, beq_iff_eq, and_self, if_true,
          Option.some.injEq, raw.injEq]
        constructor
        · rintro rfl
          exact ⟨matching, inside, rfl, rfl⟩
        · rintro ⟨_, _, rfl, _⟩
          rfl
      · simp only [token?, Bool.and_eq_true, beq_iff_eq, matching, if_false, reduceCtorEq,
          raw.injEq, false_iff, not_and]
        rintro named ⟨_, rfl, _⟩
        exact matching named
  | _ => simp [token?]

theorem token?_ofNode {name : String} (named : node.IsTokenOf name) :
    (ofNode node).token? name = some node :=
  token?_eq_some_iff.2 ⟨named, _, rfl⟩

theorem group?_eq_some_iff {name : String} {inside : Except CompileError Expr} :
    item.group? name = some (node, inside) ↔ node.IsGroupOf name ∧ item = raw node inside := by
  cases item with
  | raw other given =>
      by_cases matching : other.isToken = false ∧ other.name = name
      · simp only [group?, matching, Bool.and_eq_true, Bool.not_eq_true', beq_iff_eq, and_self,
          if_true, Option.some.injEq, Prod.mk.injEq, raw.injEq]
        constructor
        · rintro ⟨rfl, rfl⟩
          exact ⟨matching, rfl, rfl⟩
        · rintro ⟨_, rfl, rfl⟩
          exact ⟨rfl, rfl⟩
      · simp only [group?, Bool.and_eq_true, Bool.not_eq_true', beq_iff_eq, matching, if_false,
          reduceCtorEq, raw.injEq, false_iff, not_and]
        rintro named rfl _
        exact matching named
  | _ => simp [group?]

theorem symbol?_eq_some_iff {symbol : String} :
    item.symbol? = some symbol ↔
      ∃ node inside, item = raw node inside ∧ node.WritesBetween symbol := by
  cases item with
  | raw node inside =>
      by_cases named : node.name = operatorName
      · cases content : node.content? with
        | none => simp [symbol?, named, Node.WritesBetween, content]
        | some text =>
            simp only [symbol?, named, if_true, content, Option.map_some, Option.some.injEq,
              raw.injEq, Node.WritesBetween]
            constructor
            · rintro rfl
              exact ⟨node, inside, ⟨rfl, rfl⟩, named, by simp [content]⟩
            · rintro ⟨_, _, ⟨rfl, rfl⟩, _, written⟩
              rw [content] at written
              simp [Option.some.inj written]
      · simp only [symbol?, named, if_false, reduceCtorEq, raw.injEq, Node.WritesBetween,
          false_iff]
        rintro ⟨_, _, ⟨rfl, rfl⟩, writes, _⟩
        exact named writes
  | _ => simp [symbol?]

theorem isQuestion_ofNode_iff : (ofNode node).isQuestion = true ↔ node.WritesBetween "?" := by
  rw [isQuestion, beq_iff_eq, symbol?_eq_some_iff]
  constructor
  · rintro ⟨_, _, ⟨⟩, writes⟩
    exact writes
  · intro writes
    exact ⟨node, _, rfl, writes⟩

theorem isColon_ofNode_iff : (ofNode node).isColon = true ↔ node.WritesBetween ":" := by
  rw [isColon, beq_iff_eq, symbol?_eq_some_iff]
  constructor
  · rintro ⟨_, _, ⟨⟩, writes⟩
    exact writes
  · intro writes
    exact ⟨node, _, rfl, writes⟩

theorem operator?_eq_some_iff {level : List BinaryOperator} {operator : BinaryOperator} :
    item.operator? level = some operator ↔ operator ∈ level ∧
      ∃ node inside, item = raw node inside ∧ node.WritesBetween operator.symbol := by
  rw [operator?, Option.bind_eq_some_iff]
  simp only [symbol?_eq_some_iff, BinaryOperator.ofSymbolAmong?_eq_some_iff]
  constructor
  · rintro ⟨_, written, among, rfl⟩
    exact ⟨among, written⟩
  · rintro ⟨among, written⟩
    exact ⟨_, written, among, rfl⟩

/-- A node that writes another symbol is no operator of the level. -/
theorem operator?_ofNode_eq_none {level : List BinaryOperator} {symbol : String}
    (writes : node.WritesBetween symbol)
    (foreign : ∀ operator ∈ level, operator.symbol ≠ symbol) :
    (ofNode node).operator? level = none := by
  cases found : (ofNode node).operator? level with
  | none => rfl
  | some operator =>
      obtain ⟨among, other, inside, same, writesOther⟩ := operator?_eq_some_iff.1 found
      cases same
      have equal := Option.some.inj (writesOther.2.symm.trans writes.2)
      exact absurd (String.toList_inj.1 equal) (foreign operator among)

end Item

theorem bracketOf?_of_call {value : Expr} {node : Node} (named : node.IsGroupOf "call")
    (inside : Except CompileError Expr) :
    bracketOf? value (.raw node inside) = some (callOf value node inside) := by
  rw [bracketOf?, Item.group?_eq_some_iff.2 ⟨named, rfl⟩]

theorem bracketOf?_of_index {value : Expr} {node : Node} (named : node.IsGroupOf "index")
    (inside : Except CompileError Expr) :
    bracketOf? value (.raw node inside) = some (indexOf value node inside) := by
  have notCall : (Item.raw node inside).group? "call" = none := by
    simp [Item.group?, named.2]
  rw [bracketOf?, notCall, Item.group?_eq_some_iff.2 ⟨named, rfl⟩]

/-- What makes a call or an index behind a value is a group of one of these two terms. -/
theorem bracketOf?_cases {value : Expr} {item : Item} {made : Except CompileError Expr}
    (found : bracketOf? value item = some made) :
    ∃ node inside, item = .raw node inside ∧
      (node.IsGroupOf "call" ∧ made = callOf value node inside ∨
        node.IsGroupOf "index" ∧ made = indexOf value node inside) := by
  cases call : item.group? "call" with
  | some read =>
      obtain ⟨node, inside⟩ := read
      obtain ⟨named, rfl⟩ := Item.group?_eq_some_iff.1 call
      rw [bracketOf?_of_call named] at found
      exact ⟨node, inside, rfl, .inl ⟨named, (Option.some.inj found).symm⟩⟩
  | none =>
      cases index : item.group? "index" with
      | some read =>
          obtain ⟨node, inside⟩ := read
          obtain ⟨named, rfl⟩ := Item.group?_eq_some_iff.1 index
          rw [bracketOf?_of_index named] at found
          exact ⟨node, inside, rfl, .inr ⟨named, (Option.some.inj found).symm⟩⟩
      | none => simp [bracketOf?, call, index] at found

/-! ### Passes put together -/

/-- The passes up to the operators in front of operands. -/
def reduceOperands (items : List Item) : Except CompileError (List Item) := do
  let items ← reduceAtoms items
  let items ← fromFirstM reduceChains items
  let items ← fromFirstM reduceSteps items
  reduceUnary items

/-- The passes for these levels of operators between operands, from the last level to the first. -/
def reduceAt (levels : List (List BinaryOperator)) (items : List Item) : List Item :=
  levels.foldr (fun level items => fromFirst (reduceLevel level) items) items

theorem reduceLevels_eq (items : List Item) :
    reduceLevels items = reduceAt BinaryOperator.levels.reverse items := by
  rw [reduceLevels, reduceAt, List.foldr_reverse]

theorem reduce_eq (items : List Item) (origin : Origin) :
    reduce items origin =
      (do
        let operands ← reduceOperands items
        let values := reduceAt BinaryOperator.levels.reverse operands
        let joined := reduceTernaries values.length values
        finish (fromFirst (reduceLevel [.comma]) joined) origin) := by
  simp only [reduce, reduceOperands, reduceLevels_eq, bind_assoc]

theorem itemsOf_eq_map (nodes : List Node) : itemsOf nodes = nodes.map .ofNode := by
  induction nodes with
  | nil => rfl
  | cons node rest ih =>
      rw [itemsOf, ih]
      rfl

theorem compileInside_eq (node : Node) : compileInside node =
    reduce (itemsOf node.children) ⟨node.name, node.position, node.length⟩ := by
  cases node <;> rfl

end Arithmetic

end Parlance
