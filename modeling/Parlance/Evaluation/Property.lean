import Parlance.Evaluation.Method

/-!
# Properties

Reading and writing a value under a name. A name that writes a whole number in the shortest way is
an index into a list or a string. Other names are keys of maps and methods of lists and strings, and
lists and strings have a length.
-/

namespace Parlance

/-- The greatest index. Greater numbers are plain names. -/
def greatestIndex : Nat := Nat.pow 2 32 - 2

/-- The number that decimal digits write. There is none once the digits exceed a word of 64 bits. -/
def readWord? (digits : Text) : Option Nat :=
  digits.foldlM
    (fun total digit =>
      let next := 10 * total + (digit.toNat - '0'.toNat)
      if next < Nat.pow 2 64 then some next else none)
    0

/-- The index that a name writes, if it writes one in the shortest way. -/
def index? (name : Text) : Option Nat :=
  match name with
  | [] => none
  | '0' :: _ :: _ => none
  | digits =>
      if digits.all Char.isDigit then
        (readWord? digits).filter fun index => decide (index ≤ greatestIndex)
      else none

namespace Value

open Eval

/-- A method under its name, as a new function. -/
def newMethod (name : String) (code : Option FunctionCode) : Eval Value :=
  match code with
  | some code => return .function (← onHeap fun heap => heap.newFunction name code)
  | none => return .undefined

/-- Reads a property. -/
def getProperty (value : Value) (name : String) : Eval Value := do
  let heap ← heap
  match value with
  | undefined => throw (.type (.readOf name value.typeName))
  | null => throw (.type (.readOf name value.typeName))
  | map ref => return (heap.get? ref name).getD .undefined
  | list ref =>
      let items := heap.items ref
      if name = "length" then return .ofNat items.length
      else
        match index? name.toList with
        | some index => return items[index]?.getD .undefined
        | none => newMethod name ((ListMethod.ofName? name).map .listMethod)
  | string text =>
      let chars := text.toList
      if name = "length" then return .ofNat chars.length
      else
        match index? name.toList with
        | some index =>
            return match chars[index]? with
              | some char => .ofText [char]
              | none => .undefined
        | none => newMethod name ((StringMethod.ofName? name).map .stringMethod)
  | function target => return if name = "name" then .string target.name else .undefined
  | bool _ => return .undefined
  | number _ => return .undefined

/-- Writes a property. -/
def setProperty (value : Value) (name : String) (newValue : Value) : Eval Unit := do
  let heap ← heap
  match value with
  | undefined => throw (.missingIntermediate name value.typeName)
  | null => throw (.missingIntermediate name value.typeName)
  | map ref => setHeap (heap.insert ref name newValue)
  | list ref =>
      match index? name.toList with
      | some index =>
          match heap.putItem? ref index newValue with
          | some heap => setHeap heap
          | none => throw (.type (.indexTooLarge index))
      | none => throw (.type (.writeToList name))
  | other => throw (.type (.writeTo name other.typeName))

/-- Reads the property under the text of a key. -/
def getIndex (value key : Value) : Eval Value := do
  value.getProperty (key.render (← heap))

/-- Writes the property under the text of a key. -/
def setIndex (value key newValue : Value) : Eval Unit := do
  value.setProperty (key.render (← heap)) newValue

end Value

end Parlance
