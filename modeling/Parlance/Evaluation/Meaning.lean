import Parlance.Evaluation.Context
import Parlance.Expr.Canonical

/-!
# The meaning of expressions

An expression can be evaluated, assigned through, evaluated as an argument list, and evaluated as
what is called. These four uses are given together, from those of the expression's parts. Operands
are evaluated from left to right, each once, and operands that are not needed not at all.
-/

namespace Parlance

/-- The uses of an expression: its value, an assignment through it, its values as arguments, and
its value as a function with the receiver that it is called on. -/
structure Meaning where
  value : Eval Value
  assign : Value → Eval Unit
  arguments : Eval (List Value)
  callee : Eval (Value × Value)

namespace Meaning

/-- An expression that only has a value. It is one argument, and is called on nothing. -/
def ofValue (value : Eval Value) : Meaning where
  value := value
  assign _ := throw .readOnly
  arguments := return [← value]
  callee := return (.undefined, ← value)

/-- An expression that can also be assigned through. -/
def ofPlace (value : Eval Value) (assign : Value → Eval Unit) : Meaning :=
  { ofValue value with assign }

/-- A property of an object: the object, the read and the write are given. It is called on the
object. -/
def ofProperty {κ : Type} (place : Eval (Value × κ)) (read : Value → κ → Eval Value)
    (write : Value → κ → Value → Eval Unit) : Meaning :=
  let callee : Eval (Value × Value) := do
    let (object, key) ← place
    return (object, ← read object key)
  { ofPlace (Prod.snd <$> callee)
      (fun value => do
        let (object, key) ← place
        write object key value) with
    callee }

/-- Makes a step of the number in a place and gives the numbers before and after it. -/
def step (operand : Meaning) (step : Step) : Eval (Value × Value) := do
  let value ← operand.value
  let before := value.toNumber (← Eval.heap)
  let after := step.apply before
  operand.assign (.number after)
  return (.number before, .number after)

/-- The value of an operator in front of an operand. -/
def unary (operator : UnaryOperator) (operand : Meaning) : Eval Value :=
  match operator with
  | .stepBy step => Prod.snd <$> operand.step step
  | operator => do
      let value ← operand.value
      return operator.apply (← Eval.heap) value

/-- The value of an operator between two operands. -/
def binary (operator : BinaryOperator) (left right : Meaning) : Eval Value := do
  let first ← left.value
  match operator with
  | .and => if first.isTruthy then right.value else return first
  | .or => if first.isTruthy then return first else right.value
  | .comma => right.value
  | operator => do
      let second ← right.value
      return operator.apply (← Eval.heap) first second

/-- The values of a comma list as arguments: those of the left side and one more. -/
def sequence (left right : Meaning) : Eval (List Value) := do
  let values ← left.arguments
  return values ++ [← right.value]

/-- Calls what the callee comes to. Its text is named if it is no function. -/
def call (host : Host) (callee : Meaning) (text : Text) (arguments : Eval (List Value)) :
    Eval Value := do
  let (receiver, target) ← callee.callee
  let arguments ← arguments
  match target with
  | .function function => function.call host receiver arguments
  | _ => throw (.notCallable text)

end Meaning

open Meaning in
/-- The meaning of the expression in a context. -/
def Expr.meaning (host : Host) (context : Context) : Expr → Meaning
  | symbol _ name => ofPlace (context.read name) (context.assign name)
  | literal _ (.number value) => ofValue (return .number value)
  | literal _ (.string text) => ofValue (return .string text)
  | member _ object property =>
      let object := object.meaning host context
      ofProperty (return (← object.value, property)) Value.getProperty Value.setProperty
  | index _ object key =>
      let object := object.meaning host context
      let key := key.meaning host context
      ofProperty (return (← object.value, ← key.value)) Value.getIndex Value.setIndex
  | call _ callee arguments =>
      ofValue (Meaning.call host (callee.meaning host context) callee.canonical
        (arguments.meaning host context).arguments)
  | callEmpty _ callee =>
      ofValue (Meaning.call host (callee.meaning host context) callee.canonical (return []))
  | unary _ operator operand => ofValue (Meaning.unary operator (operand.meaning host context))
  | stepAfter _ step operand =>
      ofValue (Prod.fst <$> (operand.meaning host context).step step)
  | binary _ operator left right =>
      let left := left.meaning host context
      let right := right.meaning host context
      let meaning := ofValue (Meaning.binary operator left right)
      match operator with
      | .comma => { meaning with arguments := sequence left right }
      | _ => meaning
  | ternary _ condition truthy falsy =>
      let condition := condition.meaning host context
      let truthy := truthy.meaning host context
      let falsy := falsy.meaning host context
      ofValue do
        if (← condition.value).isTruthy then truthy.value else falsy.value
  | wrapper _ inner =>
      let inner := inner.meaning host context
      { inner with arguments := return [← inner.value] }

namespace Expr

/-- Evaluates the expression. -/
def evaluate (host : Host) (context : Context) (expr : Expr) : Eval Value :=
  (expr.meaning host context).value

/-- Assigns a value through the expression. -/
def assign (host : Host) (context : Context) (expr : Expr) (value : Value) : Eval Unit :=
  (expr.meaning host context).assign value

/-- Evaluates the expression as an argument list: a comma list gives one value for each part, all
else gives one value. -/
def evaluateList (host : Host) (context : Context) (expr : Expr) : Eval (List Value) :=
  (expr.meaning host context).arguments

/-- Evaluates the expression in a context of its own, over a scope and local names. -/
def evaluateWith (host : Host) (scope : MapRef) (locals : Option MapRef) (options : Options)
    (expr : Expr) : Eval Value := do
  let context ← Eval.onHeap fun heap => Context.make heap scope locals options
  expr.evaluate host context

/-- Assigns a value through the expression in a context of its own. -/
def assignWith (host : Host) (scope : MapRef) (locals : Option MapRef) (options : Options)
    (expr : Expr) (value : Value) : Eval Unit := do
  let context ← Eval.onHeap fun heap => Context.make heap scope locals options
  expr.assign host context value

end Expr

end Parlance
