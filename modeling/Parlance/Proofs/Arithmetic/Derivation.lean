import Parlance.Arithmetic.Reduction

/-!
# What sources without ternaries mean

The grammar of expressions, by which a list of nodes derives an expression: atoms, chains behind an
atom, steps behind a chain, operators in front of it, the levels of operators between two operands,
and comma lists. Derived expressions are bare: they do not say where they come from. What stands
inside brackets enters only through the expressions that the brackets can stand for.
-/

namespace Parlance

/-- The origin of an expression that does not say where it comes from. -/
def Origin.nowhere : Origin := ⟨"", 0, 0⟩

namespace Expr

/-- The expression without its origins. -/
def bare : Expr → Expr
  | symbol _ name => symbol .nowhere name
  | literal _ value => literal .nowhere value
  | member _ object property => member .nowhere object.bare property
  | index _ object key => index .nowhere object.bare key.bare
  | call _ callee arguments => call .nowhere callee.bare arguments.bare
  | callEmpty _ callee => callEmpty .nowhere callee.bare
  | unary _ operator operand => unary .nowhere operator operand.bare
  | stepAfter _ step operand => stepAfter .nowhere step operand.bare
  | binary _ operator left right => binary .nowhere operator left.bare right.bare
  | ternary _ condition truthy falsy => ternary .nowhere condition.bare truthy.bare falsy.bare
  | wrapper _ inner => wrapper .nowhere inner.bare

/-- Wrapping keeps to the bare expressions. -/
theorem bare_wrap (expr : Expr) (origin : Origin) :
    (expr.wrap origin).bare = expr.bare.wrap .nowhere := by
  cases expr <;> rfl

end Expr

namespace Node

/-- The node is a token of the named term. -/
def IsTokenOf (node : Node) (name : String) : Prop := node.isToken = true ∧ node.name = name

/-- The node is a group of the named term. -/
def IsGroupOf (node : Node) (name : String) : Prop := node.isToken = false ∧ node.name = name

/-- The node writes this symbol between two operands. -/
def WritesBetween (node : Node) (symbol : String) : Prop :=
  node.name = Arithmetic.operatorName ∧ node.content? = some symbol.toList

instance (node : Node) (symbol : String) : Decidable (node.WritesBetween symbol) :=
  inferInstanceAs (Decidable (_ ∧ _))

end Node

namespace Arithmetic

variable (inside : Node → Expr → Prop)

/-- One node that stands for a value by itself; `inside` tells what brackets stand for. -/
inductive IsAtom : List Node → Expr → Prop where
  | number {node value} (named : node.IsTokenOf "number")
      (reads : readNumber? (textOf node) = some value) :
      IsAtom [node] (.literal .nowhere (.number value))
  | string {node text} (named : node.IsTokenOf "string")
      (reads : readString? (textOf node) = some text) :
      IsAtom [node] (.literal .nowhere (.string (String.ofList text)))
  | identifier {node} (named : node.IsTokenOf "identifier") :
      IsAtom [node] (.symbol .nowhere (String.ofList (textOf node)))
  | paren {node inner} (named : node.IsGroupOf "paren") (bracketed : inside node inner) :
      IsAtom [node] (inner.wrap .nowhere)

/-- An atom with members, calls and indices behind it. A call without arguments is one whose
brackets hold nothing. -/
inductive IsChain : List Node → Expr → Prop where
  | atom {nodes expr} (atom : IsAtom inside nodes expr) : IsChain nodes expr
  | member {nodes object dot property} (chain : IsChain nodes object)
      (dotted : dot.IsTokenOf "dot") (named : property.IsTokenOf "property") :
      IsChain (nodes ++ [dot, property])
        (.member .nowhere object (String.ofList (textOf property)))
  | callEmpty {nodes callee node} (chain : IsChain nodes callee) (named : node.IsGroupOf "call")
      (holdsNothing : node.children = []) :
      IsChain (nodes ++ [node]) (.callEmpty .nowhere callee)
  | call {nodes callee node arguments} (chain : IsChain nodes callee)
      (named : node.IsGroupOf "call") (holdsSome : node.children ≠ [])
      (bracketed : inside node arguments) :
      IsChain (nodes ++ [node]) (.call .nowhere callee arguments)
  | index {nodes object node key} (chain : IsChain nodes object) (named : node.IsGroupOf "index")
      (bracketed : inside node key) :
      IsChain (nodes ++ [node]) (.index .nowhere object key)

/-- A chain with steps behind it. -/
inductive IsPost : List Node → Expr → Prop where
  | chain {nodes expr} (chain : IsChain inside nodes expr) : IsPost nodes expr
  | step {nodes operand node step} (post : IsPost nodes operand) (named : node.IsTokenOf "postfix")
      (writes : textOf node = step.symbol.toList) :
      IsPost (nodes ++ [node]) (.stepAfter .nowhere step operand)

/-- An operand: operators in front of a chain with its steps. -/
inductive IsOperand : List Node → Expr → Prop where
  | post {nodes expr} (post : IsPost inside nodes expr) : IsOperand nodes expr
  | unary {node nodes operator operand} (named : node.IsTokenOf "prefix")
      (writes : textOf node = operator.symbol.toList) (behind : IsOperand nodes operand) :
      IsOperand (node :: nodes) (.unary .nowhere operator operand)

/-- Operands with operators of these levels between them, the loosest level first. Every level
groups from the left. -/
inductive IsBinary : (levels : List (List BinaryOperator)) → List Node → Expr → Prop where
  | operand {nodes expr} (operand : IsOperand inside nodes expr) : IsBinary [] nodes expr
  | tighter {level levels nodes expr} (tighter : IsBinary levels nodes expr) :
      IsBinary (level :: levels) nodes expr
  | applied {level levels nodes left node operator others right}
      (former : IsBinary (level :: levels) nodes left) (among : operator ∈ level)
      (writes : node.WritesBetween operator.symbol) (latter : IsBinary levels others right) :
      IsBinary (level :: levels) (nodes ++ node :: others) (.binary .nowhere operator left right)

/-- A value without commas at this level of brackets. -/
abbrev IsValue : List Node → Expr → Prop := IsBinary inside BinaryOperator.levels.reverse

/-- A comma list of values, or one value. -/
abbrev IsSequence : List Node → Expr → Prop :=
  IsBinary inside ([.comma] :: BinaryOperator.levels.reverse)

/-- The children of the node derive the expression, and so do those of the brackets in it. -/
inductive Means : Node → Expr → Prop where
  | derived {node expr}
      (children : IsBinary Means ([.comma] :: BinaryOperator.levels.reverse) node.children expr) :
      Means node expr

theorem means_iff {node : Node} {expr : Expr} :
    Means node expr ↔ IsSequence Means node.children expr := by
  constructor
  · rintro ⟨children⟩
    exact children
  · exact .derived

/-! ### What brackets stand for -/

section

variable {inside other : Node → Expr → Prop} {nodes : List Node} {expr : Expr}

theorem IsAtom.transport (agree : ∀ node ∈ nodes, ∀ expr, inside node expr → other node expr)
    (atom : IsAtom inside nodes expr) : IsAtom other nodes expr := by
  cases atom with
  | number named reads => exact .number named reads
  | string named reads => exact .string named reads
  | identifier named => exact .identifier named
  | paren named bracketed => exact .paren named (agree _ (by simp) _ bracketed)

theorem IsChain.transport (agree : ∀ node ∈ nodes, ∀ expr, inside node expr → other node expr)
    (chain : IsChain inside nodes expr) : IsChain other nodes expr := by
  induction chain with
  | atom atom => exact .atom (atom.transport agree)
  | member chain dotted named ih =>
      exact .member (ih fun node member => agree node (by simp [member])) dotted named
  | callEmpty chain named holdsNothing ih =>
      exact .callEmpty (ih fun node member => agree node (by simp [member])) named holdsNothing
  | call chain named holdsSome bracketed ih =>
      exact .call (ih fun node member => agree node (by simp [member])) named holdsSome
        (agree _ (by simp) _ bracketed)
  | index chain named bracketed ih =>
      exact .index (ih fun node member => agree node (by simp [member])) named
        (agree _ (by simp) _ bracketed)

theorem IsPost.transport (agree : ∀ node ∈ nodes, ∀ expr, inside node expr → other node expr)
    (post : IsPost inside nodes expr) : IsPost other nodes expr := by
  induction post with
  | chain chain => exact .chain (chain.transport agree)
  | step post named writes ih =>
      exact .step (ih fun node member => agree node (by simp [member])) named writes

theorem IsOperand.transport (agree : ∀ node ∈ nodes, ∀ expr, inside node expr → other node expr)
    (operand : IsOperand inside nodes expr) : IsOperand other nodes expr := by
  induction operand with
  | post post => exact .post (post.transport agree)
  | unary named writes behind ih =>
      exact .unary named writes (ih fun node member => agree node (by simp [member]))

/-- A derivation uses only what the brackets among its nodes stand for. -/
theorem IsBinary.transport {levels : List (List BinaryOperator)}
    (agree : ∀ node ∈ nodes, ∀ expr, inside node expr → other node expr)
    (binary : IsBinary inside levels nodes expr) : IsBinary other levels nodes expr := by
  induction binary with
  | operand operand => exact .operand (operand.transport agree)
  | tighter tighter ih => exact .tighter (ih agree)
  | applied former among writes latter ihFormer ihLatter =>
      exact .applied (ihFormer fun node member => agree node (by simp [member])) among writes
        (ihLatter fun node member => agree node (by simp [member]))

end

end Arithmetic

end Parlance
