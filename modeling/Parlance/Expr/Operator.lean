/-!
# Operators

The operators of expressions, each with the symbol that writes it.
-/

namespace Parlance

/-- A step of a number up or down by one. -/
inductive Step where
  | increment
  | decrement
  deriving Repr, DecidableEq

namespace Step

/-- The symbol of the step. -/
def symbol : Step → String
  | increment => "++"
  | decrement => "--"

/-- The step that a symbol writes. -/
def ofSymbol? : String → Option Step
  | "++" => some increment
  | "--" => some decrement
  | _ => none

/-- The number after the step. -/
def apply (step : Step) (number : Float) : Float :=
  match step with
  | increment => number + 1
  | decrement => number - 1

theorem ofSymbol?_symbol (step : Step) : ofSymbol? step.symbol = some step := by
  cases step <;> rfl

end Step

/-- An operator in front of its operand: a step, which writes back, or one that only reads. -/
inductive UnaryOperator where
  | stepBy (step : Step)
  | not
  | complement
  | plus
  | minus
  deriving Repr, DecidableEq

namespace UnaryOperator

/-- The symbol of the operator. -/
def symbol : UnaryOperator → String
  | stepBy step => step.symbol
  | not => "!"
  | complement => "~"
  | plus => "+"
  | minus => "-"

/-- The operator that a symbol writes in front of an operand. -/
def ofSymbol? : String → Option UnaryOperator
  | "++" => some (stepBy .increment)
  | "--" => some (stepBy .decrement)
  | "!" => some not
  | "~" => some complement
  | "+" => some plus
  | "-" => some minus
  | _ => none

theorem ofSymbol?_symbol (operator : UnaryOperator) :
    ofSymbol? operator.symbol = some operator := by
  cases operator with
  | stepBy step => cases step <;> rfl
  | _ => rfl

end UnaryOperator

/-- An operator between two operands. -/
inductive BinaryOperator where
  | times
  | divide
  | remainder
  | plus
  | minus
  | shiftLeft
  | shiftRight
  | shiftRightUnsigned
  | less
  | lessOrEqual
  | greater
  | greaterOrEqual
  | equal
  | notEqual
  | identical
  | notIdentical
  | bitAnd
  | bitXor
  | bitOr
  | and
  | or
  | comma
  deriving Repr, DecidableEq

namespace BinaryOperator

/-- The symbol of the operator. -/
def symbol : BinaryOperator → String
  | times => "*"
  | divide => "/"
  | remainder => "%"
  | plus => "+"
  | minus => "-"
  | shiftLeft => "<<"
  | shiftRight => ">>"
  | shiftRightUnsigned => ">>>"
  | less => "<"
  | lessOrEqual => "<="
  | greater => ">"
  | greaterOrEqual => ">="
  | equal => "=="
  | notEqual => "!="
  | identical => "==="
  | notIdentical => "!=="
  | bitAnd => "&"
  | bitXor => "^"
  | bitOr => "|"
  | and => "&&"
  | or => "||"
  | comma => ","

/-- Every operator. -/
def all : List BinaryOperator :=
  [times, divide, remainder, plus, minus, shiftLeft, shiftRight, shiftRightUnsigned, less,
    lessOrEqual, greater, greaterOrEqual, equal, notEqual, identical, notIdentical, bitAnd, bitXor,
    bitOr, and, or, comma]

/-- The operator among these that a symbol writes. -/
def ofSymbolAmong? (operators : List BinaryOperator) (symbol : String) : Option BinaryOperator :=
  operators.find? fun operator => operator.symbol == symbol

/-- The operators that bind tighter than the comma, one level after the other from the tightest on.
Operators of one level are grouped from left to right. -/
def levels : List (List BinaryOperator) :=
  [[times, divide, remainder], [plus, minus], [shiftLeft, shiftRight, shiftRightUnsigned],
    [less, lessOrEqual, greater, greaterOrEqual], [equal, notEqual, identical, notIdentical],
    [bitAnd], [bitXor], [bitOr], [and], [or]]

end BinaryOperator

end Parlance
