import Parlance.Expr.Operator
import Parlance.Number.Remainder
import Parlance.Value.Equality

/-!
# Operations on values

What the operators make of values that have been computed. The operators that may leave out an
operand are given here for the case that both are computed.
-/

namespace Parlance

/-- The value that an operator in front of a value makes of it. A step only computes the number. -/
def UnaryOperator.apply (heap : Heap) (operator : UnaryOperator) (value : Value) : Value :=
  match operator with
  | stepBy step => .number (step.apply (value.toNumber heap))
  | not => .bool !value.isTruthy
  | complement => .number (Word.toSignedFloat (Word.complement (value.toWord heap)))
  | plus => .number (value.toNumber heap)
  | minus => .number (-value.toNumber heap)

namespace Value

/-- Whether adding the value joins texts. -/
def joinsTexts : Value → Bool
  | string _ => true
  | value => value.isObject

/-- The sum of numbers, or the texts joined if either value is a string or an object. -/
def add (heap : Heap) (first second : Value) : Value :=
  if first.joinsTexts || second.joinsTexts then
    string (String.ofList (first.text heap ++ second.text heap))
  else number (first.toNumber heap + second.toNumber heap)

/-- Whether the first value is less: strings by their characters, all else by numbers. -/
def less (heap : Heap) : Value → Value → Bool
  | string first, string second => decide (first < second)
  | first, second => decide (first.toNumber heap < second.toNumber heap)

/-- Whether the first value is less or equal. -/
def lessOrEqual (heap : Heap) : Value → Value → Bool
  | string first, string second => !decide (second < first)
  | first, second => decide (first.toNumber heap ≤ second.toNumber heap)

end Value

/-- The value that an operator makes of two values. -/
def BinaryOperator.apply (heap : Heap) (operator : BinaryOperator) (left right : Value) : Value :=
  let numbers (combine : Float → Float → Float) : Value :=
    .number (combine (left.toNumber heap) (right.toNumber heap))
  let words (combine : Nat → Nat → Float) : Value :=
    .number (combine (left.toWord heap) (right.toWord heap))
  match operator with
  | times => numbers (· * ·)
  | divide => numbers (· / ·)
  | remainder => numbers Parlance.remainder
  | plus => left.add heap right
  | minus => numbers (· - ·)
  | shiftLeft => words fun word places => Word.toSignedFloat (Word.shiftLeft word places)
  | shiftRight => words fun word places => Float.ofInt (Word.shiftRight word places)
  | shiftRightUnsigned =>
      words fun word places => Word.toFloat (Word.shiftRightUnsigned word places)
  | less => .bool (left.less heap right)
  | lessOrEqual => .bool (left.lessOrEqual heap right)
  | greater => .bool (right.less heap left)
  | greaterOrEqual => .bool (right.lessOrEqual heap left)
  | equal => .bool (left.looseEquals heap right)
  | notEqual => .bool !left.looseEquals heap right
  | identical => .bool (left.identical right)
  | notIdentical => .bool !left.identical right
  | bitAnd => words fun first second => Word.toSignedFloat (first &&& second)
  | bitXor => words fun first second => Word.toSignedFloat (first ^^^ second)
  | bitOr => words fun first second => Word.toSignedFloat (first ||| second)
  | and => if left.isTruthy then right else left
  | or => if left.isTruthy then left else right
  | comma => right

end Parlance
