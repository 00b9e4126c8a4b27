import Parlance.Arithmetic.Literal
import Parlance.Expr.Basic
import Parlance.Tree.Parsing

/-!
# Work lists

The children of a group are compiled by rewriting a list of items until one expression is left. An
item is a node of the tree, an expression made from some of them, or the two branches of a ternary
that still wait for its condition.
-/

namespace Parlance.Arithmetic

/-- Why a source cannot be compiled. -/
inductive CompileError where
  | parse (error : ParseError)
  | unreduced (offset remaining : Nat)
  | incompleteTernary (offset : Nat)
  | unknownOperator (symbol : Text) (offset : Nat)
  | invalidLiteral (text : Text) (offset : Nat)
  deriving Repr, DecidableEq

/-- The message of the error. -/
def CompileError.message : CompileError → String
  | parse error => error.message
  | unreduced offset remaining =>
      "failed to parse expression at offset " ++ Nat.repr offset ++ " (" ++ Nat.repr remaining ++
        " unreduced nodes)"
  | incompleteTernary offset => "incomplete ternary (missing ?/:) at offset " ++ Nat.repr offset
  | unknownOperator symbol offset =>
      "could not resolve operator '" ++ String.ofList symbol ++ "' at offset " ++ Nat.repr offset
  | invalidLiteral text offset =>
      "invalid literal " ++ String.ofList text.quoted ++ " at offset " ++ Nat.repr offset

/-- The name of the term of all operators between values. -/
def operatorName : String := "operator"

/-- An item of a work list. With a node comes what its children compile to. -/
inductive Item where
  | raw (node : Node) (inside : Except CompileError Expr)
  | expr (expr : Expr)
  | branches (truthy falsy : Expr) (origin : Origin)

/-- The origin of an expression made from the node alone. -/
def originOf (node : Node) : Origin := ⟨node.name, node.position, node.length⟩

/-- The verbatim text of the node, or no text if it is not kept. -/
def textOf (node : Node) : Text := node.content?.getD []

namespace Item

/-- Where the item starts. -/
def position : Item → Nat
  | raw node _ => node.position
  | expr made => made.origin.position
  | branches _ _ origin => origin.position

/-- Whether the item is an expression. -/
def isExpr : Item → Bool
  | expr _ => true
  | _ => false

/-- The node of the item, if it is a token of the named term. -/
def token? (name : String) : Item → Option Node
  | raw node _ => if node.isToken && node.name == name then some node else none
  | _ => none

/-- The node of the item with what its children compile to, if it is a group of the named term. -/
def group? (name : String) : Item → Option (Node × Except CompileError Expr)
  | raw node inside => if !node.isToken && node.name == name then some (node, inside) else none
  | _ => none

/-- The symbol of the item, if it is an operator between values. -/
def symbol? : Item → Option String
  | raw node _ => if node.name = operatorName then node.content?.map String.ofList else none
  | _ => none

/-- Whether the item is a question mark. -/
def isQuestion (item : Item) : Bool := item.symbol? == some "?"

/-- Whether the item is a colon. -/
def isColon (item : Item) : Bool := item.symbol? == some ":"

/-- Whether the item is a pair of branches. -/
def isBranches : Item → Bool
  | branches .. => true
  | _ => false

end Item

end Parlance.Arithmetic
