import Parlance.Evaluation.Meaning
import Parlance.Proofs.Evaluation.Growth
import Parlance.Proofs.Evaluation.Property

/-!
# Calling methods

A method of a list or a string is called by reading it under its name and calling what was read with
the list or string as receiver. Reading it makes a new function and changes nothing else, so the call
runs the method on a heap with the same lists and maps.
-/

namespace Parlance

variable {machine : Machine} {name : String}

/-- The value of a call of a member of a value: the member is read under its name and called on the
value. -/
def Value.invoke (host : Host) (value : Value) (name : String) (arguments : List Value) :
    Eval Value :=
  Meaning.call host (.ofProperty (return (value, name)) getProperty setProperty) name.toList
    (return arguments)

/-- The machine after a method was read from a list or a string. -/
def Machine.withFunction (machine : Machine) (name : String) (code : FunctionCode) : Machine :=
  { machine with heap := (machine.heap.newFunction name code).2 }

theorem Machine.grows_withFunction (machine : Machine) (name : String) (code : FunctionCode) :
    machine.heap.Grows (machine.withFunction name code).heap :=
  machine.heap.grows_newFunction name code

theorem StringMethod.isPlain_of_ofName? {method : StringMethod}
    (named : StringMethod.ofName? name = some method) :
    name ≠ "length" ∧ index? name.toList = none := by
  unfold StringMethod.ofName? at named
  split at named
  all_goals first
    | exact ⟨by decide, by decide⟩
    | cases named

theorem ListMethod.isPlain_of_ofName? {method : ListMethod}
    (named : ListMethod.ofName? name = some method) :
    name ≠ "length" ∧ index? name.toList = none := by
  unfold ListMethod.ofName? at named
  split at named
  all_goals first
    | exact ⟨by decide, by decide⟩
    | cases named

namespace Value

theorem runOn_invoke {value : Value} {function : Function} {there : Machine}
    (read : (value.getProperty name).runOn machine = (.ok (.function function), there))
    (host : Host) (arguments : List Value) :
    (value.invoke host name arguments).runOn machine =
      (function.call host value arguments).runOn there := by
  simp only [invoke, Meaning.call, Meaning.ofProperty, pure_bind, bind_assoc]
  rw [Eval.runOn_bind, read]

theorem runOn_invoke_string {method : StringMethod}
    (named : StringMethod.ofName? name = some method) (host : Host) (text : String)
    (arguments : List Value) (machine : Machine) :
    ((string text).invoke host name arguments).runOn machine =
      (method.call text.toList arguments).runOn
        (machine.withFunction name (.stringMethod method)) := by
  obtain ⟨notLength, noIndex⟩ := StringMethod.isPlain_of_ofName? named
  have read : ((string text).getProperty name).runOn machine =
      (.ok (.function ⟨machine.heap.functions, name, .stringMethod method⟩),
        machine.withFunction name (.stringMethod method)) := by
    rw [getProperty, Eval.runOn_heap_bind]
    simp only [if_neg notLength, noIndex, named]
    rfl
  exact runOn_invoke read host arguments

theorem runOn_invoke_list {method : ListMethod} (named : ListMethod.ofName? name = some method)
    (host : Host) (ref : ListRef) (arguments : List Value) (machine : Machine) :
    ((list ref).invoke host name arguments).runOn machine =
      (method.call ref arguments).runOn (machine.withFunction name (.listMethod method)) := by
  obtain ⟨notLength, noIndex⟩ := ListMethod.isPlain_of_ofName? named
  have read : ((list ref).getProperty name).runOn machine =
      (.ok (.function ⟨machine.heap.functions, name, .listMethod method⟩),
        machine.withFunction name (.listMethod method)) := by
    rw [runOn_getProperty_method notLength noIndex, named]
    rfl
  exact runOn_invoke read host arguments

end Value

end Parlance
