import Parlance.Value.Operation

/-!
# Evaluation steps

An evaluation step works on a machine, which is a heap together with the calls made to the host so
far. A step that fails keeps what it has done to the machine before.
-/

namespace Parlance

/-- Why an operation does not suit the type of a value. -/
inductive TypeFault where
  | readOf (name : String) (type : String)
  | writeToList (name : String)
  | writeTo (name : String) (type : String)
  | indexTooLarge (index : Nat)
  | listMethodOn (type : String)
  | stringMethodOn (type : String)
  deriving Repr, DecidableEq

/-- The wording of the fault. -/
def TypeFault.message : TypeFault → String
  | readOf name type => "cannot read property '" ++ name ++ "' of " ++ type
  | writeToList name => "cannot set property '" ++ name ++ "' of a list"
  | writeTo name type => "cannot set property '" ++ name ++ "' of " ++ type
  | indexTooLarge index =>
      "list index " ++ Nat.repr index ++ " is out of range (at most " ++
        Nat.repr (Heap.listLimit - 1) ++ ")"
  | listMethodOn type => "list method called on " ++ type
  | stringMethodOn type => "string method called on " ++ type

/-- Why an evaluation or an assignment fails. -/
inductive EvalError where
  | undefinedVariable (name : String)
  | readOnly
  | notEvaluable
  | notCallable (callee : Text)
  | missingIntermediate (property base : String)
  | type (fault : TypeFault)
  | host (message : String)
  deriving Repr, DecidableEq

/-- The message of the error. -/
def EvalError.message : EvalError → String
  | undefinedVariable name => "undefined variable: " ++ name
  | readOnly => "expression is read-only"
  | notEvaluable => "expression cannot be evaluated"
  | notCallable callee => String.ofList callee ++ " is not a function"
  | missingIntermediate property base => "cannot set property '" ++ property ++ "' of " ++ base
  | type fault => "type error: " ++ fault.message
  | host message => message

/-- A call to the host: the function, the receiver and the arguments, and the heap at that
moment. -/
structure HostCall where
  function : Function
  receiver : Value
  arguments : List Value
  heap : Heap

/-- A heap and the calls made to the host so far, in order. -/
structure Machine where
  heap : Heap
  calls : List HostCall

/-- A machine that has called nothing. -/
def Machine.ofHeap (heap : Heap) : Machine := ⟨heap, []⟩

/-- A step that may fail and may change the machine. -/
abbrev Eval := ExceptT EvalError (StateM Machine)

/-- The functions that the host provides: what a call of one of them with a receiver and arguments
gives on a heap, and the heap after it. -/
abbrev Host :=
  (function : Function) → (receiver : Value) → (arguments : List Value) → Heap →
    Except EvalError Value × Heap

namespace Eval

/-- The present heap. -/
def heap : Eval Heap := return (← get).heap

/-- Puts another heap in place. -/
def setHeap (heap : Heap) : Eval Unit := modify ({ · with heap })

/-- Makes a change to the heap that has a result. -/
def onHeap {α : Type} (change : Heap → α × Heap) : Eval α := do
  let (result, heap) := change (← heap)
  setHeap heap
  return result

/-- Runs the step on a machine. -/
def runOn {α : Type} (step : Eval α) (machine : Machine) : Except EvalError α × Machine :=
  step.run.run machine

end Eval

end Parlance
