import Parlance.Evaluation.Machine
import Parlance.Text.Case

/-!
# Methods

The methods of lists and strings. Positions in strings count characters. Bounds of a slice are
counted from the end if they are negative, cut to whole numbers, and kept inside the list or string.
-/

namespace Parlance

/-- A bound of a slice of something of this length; an undefined bound gives the default. What is
not a number is taken for zero. -/
def sliceBound (heap : Heap) (length fallback : Nat) : Option Value → Nat
  | none => fallback
  | some Value.undefined => fallback
  | some value =>
      let number := value.toNumber heap
      let whole := if number.isNaN then 0 else Binary.whole number
      if whole < 0 then (max (Float.ofNat length + whole) 0).toUInt64.toNat
      else min whole.toUInt64.toNat length

/-- The items from one bound to the other; none if the bounds cross. -/
def sliceOf {α : Type} (heap : Heap) (items : List α) (arguments : List Value) : List α :=
  let start := sliceBound heap items.length 0 arguments[0]?
  let stop := sliceBound heap items.length items.length arguments[1]?
  (items.take stop).drop start

/-- The text that separates items or parts: the argument as text, or nothing if it is missing or
undefined. -/
def separator? (heap : Heap) (arguments : List Value) : Option Text :=
  match arguments[0]? with
  | none => none
  | some Value.undefined => none
  | some value => some (value.text heap)

/-- The position of a character or an item as a value; minus one if there is none. -/
def positionValue : Option Nat → Value
  | some position => .ofNat position
  | none => .number (-1)

/-- Whether the value is the undefined result of a number operation. -/
def Value.isUndefinedNumber : Value → Bool
  | number value => value.isNaN
  | _ => false

open Eval in
/-- Calls a method on a list. -/
def ListMethod.call (method : ListMethod) (ref : ListRef) (arguments : List Value) : Eval Value := do
  let heap ← heap
  let first := arguments[0]?.getD .undefined
  match method with
  | join => return .ofText (Value.joinItems heap ref ((separator? heap arguments).getD [',']))
  | push =>
      setHeap (heap.pushItems ref arguments)
      return .ofNat ((heap.items ref).length + arguments.length)
  | pop => return (← onHeap fun heap => heap.popItem ref).getD .undefined
  | indexOf => return positionValue ((heap.items ref).findIdx? fun item => item.identical first)
  | includes =>
      return .bool ((heap.items ref).any fun item =>
        item.identical first || (first.isUndefinedNumber && item.isUndefinedNumber))
  | slice => return .list (← onHeap fun heap => heap.newList (sliceOf heap (heap.items ref) arguments))

open Eval in
/-- Calls a method on a string. -/
def StringMethod.call (method : StringMethod) (text : Text) (arguments : List Value) :
    Eval Value := do
  let heap ← heap
  match method with
  | toUpperCase => return .ofText text.upperCase
  | toLowerCase => return .ofText text.lowerCase
  | trim => return .ofText text.trim
  | indexOf =>
      return positionValue (Text.position? ((arguments[0]?.getD Value.undefined).text heap) text)
  | slice => return .ofText (sliceOf heap text arguments)
  | split =>
      let parts := match separator? heap arguments with
        | none => [text]
        | some [] => text.map fun char => [char]
        | some separator => Text.split separator text
      return .list (← onHeap fun heap => heap.newList (parts.map Value.ofText))

/-- Calls a function with a receiver and arguments. A method must be called on a value of its
type. -/
def Function.call (host : Host) (function : Function) (receiver : Value) (arguments : List Value) :
    Eval Value :=
  match function.code with
  | .listMethod method =>
      match receiver with
      | .list ref => method.call ref arguments
      | other => throw (.type (.listMethodOn other.typeName))
  | .stringMethod method =>
      match receiver with
      | .string text => method.call text.toList arguments
      | other => throw (.type (.stringMethodOn other.typeName))
  | .host => do
      let machine ← get
      let (result, heap) := host function receiver arguments machine.heap
      set (⟨heap, machine.calls ++ [⟨function, receiver, arguments, machine.heap⟩]⟩ : Machine)
      result

end Parlance
