import Parlance.Expr.Operator
import Parlance.Number.Numeral

/-!
# Expressions

An expression is a tree over symbols and literals. Every node has an origin: the term of the
grammar that made it and the bytes of the source it spans. A bracketed part of the source is kept as
a wrapper, which is transparent except that it makes a comma list one value.
-/

namespace Parlance

/-- Where a node comes from. -/
structure Origin where
  name : String
  position : Nat
  length : Nat
  deriving Repr, DecidableEq

/-- The origin under a name that starts with the first origin and ends where both have ended. -/
def Origin.spanning (name : String) (first last : Origin) : Origin :=
  let stop := max (first.position + first.length) (last.position + last.length)
  ⟨name, first.position, stop - first.position⟩

/-- The value of a literal. -/
inductive Constant where
  | number (value : Float)
  | string (text : String)
  deriving Repr

/-- An expression. A call without arguments has a node of its own. -/
inductive Expr where
  | symbol (origin : Origin) (name : String)
  | literal (origin : Origin) (value : Constant)
  | member (origin : Origin) (object : Expr) (property : String)
  | index (origin : Origin) (object key : Expr)
  | call (origin : Origin) (callee arguments : Expr)
  | callEmpty (origin : Origin) (callee : Expr)
  | unary (origin : Origin) (operator : UnaryOperator) (operand : Expr)
  | stepAfter (origin : Origin) (step : Step) (operand : Expr)
  | binary (origin : Origin) (operator : BinaryOperator) (left right : Expr)
  | ternary (origin : Origin) (condition truthy falsy : Expr)
  | wrapper (origin : Origin) (inner : Expr)
  deriving Repr

namespace Expr

/-- Where the expression comes from. -/
def origin : Expr → Origin
  | symbol origin _ => origin
  | literal origin _ => origin
  | member origin _ _ => origin
  | index origin _ _ => origin
  | call origin _ _ => origin
  | callEmpty origin _ => origin
  | unary origin _ _ => origin
  | stepAfter origin _ _ => origin
  | binary origin _ _ _ => origin
  | ternary origin _ _ _ => origin
  | wrapper origin _ => origin

/-- Wraps the expression, unless it is a wrapper already. -/
def wrap (expr : Expr) (origin : Origin) : Expr :=
  match expr with
  | wrapper inside inner => wrapper inside inner
  | other => wrapper origin other

/-- The expression without the wrappers around it. -/
def unwrapped : Expr → Expr
  | wrapper _ inner => inner.unwrapped
  | other => other

/-- Whether a value can be assigned through the expression. -/
def isAssignable (expr : Expr) : Bool :=
  match expr.unwrapped with
  | symbol .. => true
  | member .. => true
  | index .. => true
  | _ => false

/-- Whether the expression is a comma list. -/
def isSequence : Expr → Bool
  | binary _ .comma _ _ => true
  | _ => false

end Expr

end Parlance
