import Parlance.Arithmetic.Item
import Parlance.Arithmetic.Language

/-!
# Reduction

A work list is reduced level by level, the tightest operators first: literals, names and
parentheses; members, calls and indices; steps behind an operand; operators in front of one; the
operators between two operands; ternaries; and the comma. Each level is one pass over the list,
except that passes for ternaries are repeated as long as they find something.

What is inside the brackets of a call or an index is compiled only if the call or the index is
reached; an error in it does not matter before.
-/

namespace Parlance.Arithmetic

/-! ### Single items -/

/-- Turns a literal, a name or a parenthesis into an expression. Other items stay as they are. -/
def reduceAtom (item : Item) : Except CompileError Item :=
  match item with
  | .raw node inside =>
      let origin := originOf node
      if node.isToken then
        match node.name with
        | "number" =>
            match readNumber? (textOf node) with
            | some value => .ok (.expr (.literal origin (.number value)))
            | none => .error (.invalidLiteral (textOf node) node.position)
        | "string" =>
            match readString? (textOf node) with
            | some text => .ok (.expr (.literal origin (.string (String.ofList text))))
            | none => .error (.invalidLiteral (textOf node) node.position)
        | "identifier" => .ok (.expr (.symbol origin (String.ofList (textOf node))))
        | _ => .ok item
      else if node.name = "paren" then inside.map fun expr => .expr (expr.wrap origin)
      else .ok item
  | other => .ok other

/-- Reduces every item by itself. -/
def reduceAtoms (items : List Item) : Except CompileError (List Item) :=
  items.mapM reduceAtom

/-! ### Chains behind a value -/

/-- The call of a value. Brackets without children make a call without arguments. -/
def callOf (callee : Expr) (node : Node) (inside : Except CompileError Expr) :
    Except CompileError Expr :=
  let origin := Origin.spanning node.name callee.origin (originOf node)
  if node.children.isEmpty then .ok (.callEmpty origin callee)
  else inside.map fun arguments => .call origin callee arguments

/-- The element of a value at a key. -/
def indexOf (object : Expr) (node : Node) (inside : Except CompileError Expr) :
    Except CompileError Expr :=
  let origin := Origin.spanning node.name object.origin (originOf node)
  inside.map fun key => .index origin object key

/-- The member of a value behind a dot. -/
def memberOf (object : Expr) (dot property : Node) : Expr :=
  .member (Origin.spanning dot.name object.origin (originOf property)) object
    (String.ofList (textOf property))

/-- The call or the index that an item behind a value makes, if it does. -/
def bracketOf? (value : Expr) (item : Item) : Option (Except CompileError Expr) :=
  match item.group? "call", item.group? "index" with
  | some (node, inside), _ => some (callOf value node inside)
  | none, some (node, inside) => some (indexOf value node inside)
  | none, none => none

/-- Reduces members, calls and indices from left to right; `current` is the item before the list. -/
def reduceChains (current : Item) : List Item → Except CompileError (List Item)
  | [] => .ok [current]
  | [item] =>
      match current with
      | .expr value =>
          match bracketOf? value item with
          | some made => made.map fun expr => [.expr expr]
          | none => .ok [current, item]
      | _ => .ok [current, item]
  | item :: after :: rest =>
      match current with
      | .expr value =>
          match item.token? "dot", after.token? "property" with
          | some dot, some property => reduceChains (.expr (memberOf value dot property)) rest
          | _, _ =>
              match bracketOf? value item with
              | some made => do reduceChains (.expr (← made)) (after :: rest)
              | none => (current :: ·) <$> reduceChains item (after :: rest)
      | _ => (current :: ·) <$> reduceChains item (after :: rest)

/-! ### Steps and operators at one operand -/

/-- The step behind an operand. -/
def stepOf (operand : Expr) (node : Node) : Except CompileError Expr :=
  match Step.ofSymbol? (String.ofList (textOf node)) with
  | some step =>
      .ok (.stepAfter (Origin.spanning node.name operand.origin (originOf node)) step operand)
  | none => .error (.unknownOperator (textOf node) node.position)

/-- Reduces steps behind their operands from left to right; `current` is the item before the list. -/
def reduceSteps (current : Item) : List Item → Except CompileError (List Item)
  | [] => .ok [current]
  | item :: rest =>
      match current, item.token? "postfix" with
      | .expr operand, some node => do reduceSteps (.expr (← stepOf operand node)) rest
      | _, _ => (current :: ·) <$> reduceSteps item rest

/-- The operator in front of an operand. -/
def unaryOf (node : Node) (operand : Expr) : Except CompileError Expr :=
  match UnaryOperator.ofSymbol? (String.ofList (textOf node)) with
  | some operator =>
      .ok (.unary (Origin.spanning node.name (originOf node) operand.origin) operator operand)
  | none => .error (.unknownOperator (textOf node) node.position)

/-- Reduces operators in front of their operands from right to left. -/
def reduceUnary : List Item → Except CompileError (List Item)
  | [] => .ok []
  | item :: rest => do
      match item.token? "prefix", ← reduceUnary rest with
      | some node, .expr operand :: others => return .expr (← unaryOf node operand) :: others
      | _, reduced => return item :: reduced

/-! ### Operators between two operands -/

/-- The operator among those of a level that an item writes. -/
def Item.operator? (level : List BinaryOperator) (item : Item) : Option BinaryOperator :=
  item.symbol?.bind (BinaryOperator.ofSymbolAmong? level)

/-- The expression of an operator between two operands. -/
def binaryOf (operator : BinaryOperator) (left right : Expr) : Expr :=
  .binary (Origin.spanning operatorName left.origin right.origin) operator left right

/-- Reduces the operators of one level from left to right; `current` is the item before the list. -/
def reduceLevel (level : List BinaryOperator) (current : Item) : List Item → List Item
  | [] => [current]
  | [item] => [current, item]
  | item :: after :: rest =>
      match current, item.operator? level, after with
      | .expr left, some operator, .expr right =>
          reduceLevel level (.expr (binaryOf operator left right)) rest
      | _, _, _ => current :: reduceLevel level item (after :: rest)

/-- Applies a pass that works from the first item on. -/
def fromFirst (pass : Item → List Item → List Item) : List Item → List Item
  | [] => []
  | first :: rest => pass first rest

/-- Reduces all levels of operators between two operands but the comma. -/
def reduceLevels (items : List Item) : List Item :=
  BinaryOperator.levels.foldl (fun items level => fromFirst (reduceLevel level) items) items

/-! ### Ternaries -/

/-- How many items lie between a colon and the question mark that it closes. The items to the left
of the colon are given, the nearest first; `depth` counts the colons among those passed that have
not met their question marks. A pair of branches stands for a colon. -/
def openQuestion : (depth : Nat) → List Item → Option Nat
  | _, [] => none
  | depth, item :: rest =>
      if item.isColon || item.isBranches then (openQuestion (depth + 1) rest).map (· + 1)
      else if item.isQuestion then
        match depth with
        | 0 => some 0
        | depth + 1 => (openQuestion depth rest).map (· + 1)
      else (openQuestion depth rest).map (· + 1)

/-- The index of the question mark that a colon at this index closes. -/
def matchingQuestion (items : List Item) (index : Nat) : Option Nat :=
  (openQuestion 0 (items.take index).reverse).map fun between =>
    (items.take index).length - 1 - between

/-- Whether the question mark that a colon closes stands right before the operand at the colon's
left. The items to the left are given, the nearest first. -/
def closesNearest (left : List Item) : Bool :=
  openQuestion 0 (left.take 2) == some 1

/-- The branches or the ternary made of an item and its neighbours. `left` has the items to the left
of the previous one, the nearest first. -/
def ternaryOf? (left : List Item) (previous current next : Item) : Option Item :=
  match previous, next with
  | .expr truthy, .expr falsy =>
      if current.isColon && closesNearest (previous :: left) then
        some (.branches truthy falsy
          (Origin.spanning operatorName truthy.origin falsy.origin))
      else none
  | .expr condition, .branches truthy falsy origin =>
      if current.isQuestion then
        some (.expr (.ternary (Origin.spanning operatorName condition.origin origin)
          condition truthy falsy))
      else none
  | _, _ => none

/-- One pass for ternaries from right to left: the items not yet passed, the nearest first, and the
items passed. -/
def passTernaries : List Item → List Item → List Item
  | [], passed => passed
  | [current], passed => current :: passed
  | current :: previous :: left, passed =>
      match passed with
      | [] => passTernaries (previous :: left) [current]
      | next :: rest =>
          match ternaryOf? left previous current next with
          | some made => passTernaries left (made :: rest)
          | none => passTernaries (previous :: left) (current :: next :: rest)

/-- Repeats passes for ternaries, at most `fuel` times, until one changes nothing. A pass that
changes something shortens the list. -/
def reduceTernaries : (fuel : Nat) → List Item → List Item
  | 0, items => items
  | fuel + 1, items =>
      let passed := passTernaries items.reverse []
      if passed.length = items.length then items else reduceTernaries fuel passed

/-! ### All levels -/

/-- The expression that is left of a reduced list. Left-over parts of a ternary are reported before
anything else. -/
def finish (items : List Item) (origin : Origin) : Except CompileError Expr :=
  match items.find? fun item => item.isQuestion || item.isColon || item.isBranches with
  | some item => .error (.incompleteTernary item.position)
  | none =>
      match items with
      | [.expr expr] => .ok expr
      | items =>
          let offset := match items.find? fun item => !item.isExpr with
            | some item => item.position
            | none => origin.position
          .error (.unreduced offset items.length)

/-- Applies a pass that works from the first item on and can fail. -/
def fromFirstM (pass : Item → List Item → Except CompileError (List Item)) :
    List Item → Except CompileError (List Item)
  | [] => .ok []
  | first :: rest => pass first rest

/-- Reduces a work list to one expression. The origin is that of the brackets around it. -/
def reduce (items : List Item) (origin : Origin) : Except CompileError Expr := do
  let items ← reduceAtoms items
  let items ← fromFirstM reduceChains items
  let items ← fromFirstM reduceSteps items
  let items ← reduceUnary items
  let items := reduceLevels items
  let items := reduceTernaries items.length items
  let items := fromFirst (reduceLevel [.comma]) items
  finish items origin

mutual

/-- What the children of the node compile to. -/
def compileInside : Node → Except CompileError Expr
  | .token name position length _ _ => reduce [] ⟨name, position, length⟩
  | .group name position length _ _ _ _ _ children =>
      reduce (itemsOf children) ⟨name, position, length⟩

/-- The work list of the nodes. -/
def itemsOf : List Node → List Item
  | [] => []
  | node :: rest => .raw node (compileInside node) :: itemsOf rest

end

/-- Compiles a tree whose terms have the names of the arithmetic language. -/
def compileTree (tree : Node) : Except CompileError Expr := compileInside tree

/-- Compiles a source. -/
def compile (source : Text) : Except CompileError Expr :=
  match grammar.parse .plain source with
  | .ok tree => compileTree tree
  | .error error => .error (.parse error)

end Parlance.Arithmetic
