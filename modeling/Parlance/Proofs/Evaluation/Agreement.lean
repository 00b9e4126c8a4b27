import Parlance.Proofs.Evaluation.Discipline
import Parlance.Proofs.Value.Likeness

/-!
# Agreement of two runs

Two steps agree if, run on machines that look alike, they leave machines that look alike and give
results that correspond to each other or the same error. In some comparisons the former step may
also fail alone, where the latter one goes on. Steps that are composed of steps that agree agree
themselves.
-/

namespace Parlance

/-- When two runs agree: how heaps look alike, which errors both runs may fail with, and with which
error the former one may fail alone on a heap. -/
structure Comparison extends Likeness where
  Shared : EvalError → Prop
  Alone : EvalError → Heap → Prop
  shared : ∀ fault, (∀ name, fault ≠ .undefinedVariable name) → Shared fault

/-- Calls of one name that were given what looks alike. -/
structure HostCall.Alike (likeness : Likeness) (call other : HostCall) : Prop where
  function : call.function = other.function
  receiver : likeness.Same call.receiver other.receiver
  arguments : likeness.AllSame call.arguments other.arguments
  heap : likeness.Alike call.heap other.heap

/-- The heaps look alike, and so do the calls made to the host so far, one by one. -/
structure Machine.Alike (likeness : Likeness) (former latter : Machine) : Prop where
  heap : likeness.Alike former.heap latter.heap
  calls : List.Forall₂ (HostCall.Alike likeness) former.calls latter.calls

/-- Both succeed with results that are related, or both fail with the same error, one that may be
shared. -/
inductive Matches {α : Type} (Shared : EvalError → Prop) (related : α → α → Prop) :
    Except EvalError α → Except EvalError α → Prop where
  | ok {value other : α} (here : related value other) : Matches Shared related (.ok value) (.ok other)
  | error {fault : EvalError} (shared : Shared fault) :
      Matches Shared related (.error fault) (.error fault)

/-- How two runs may end: alike, or with an error of the former one alone. -/
inductive Comparison.Ends (comparison : Comparison) {α : Type} (related : α → α → Prop) :
    Except EvalError α × Machine → Except EvalError α × Machine → Prop where
  | alike {result other : Except EvalError α} {former latter : Machine}
      (results : Matches comparison.Shared related result other)
      (machines : former.Alike comparison.toLikeness latter) :
      Ends comparison related (result, former) (other, latter)
  | alone {fault : EvalError} {former : Machine} {latter : Except EvalError α × Machine}
      (reason : comparison.Alone fault former.heap) :
      Ends comparison related (.error fault, former) latter

namespace Eval

variable {α β : Type}

/-- Run on machines that look alike, the steps end alike, or the former one fails alone. -/
def Agrees (comparison : Comparison) (related : α → α → Prop) (step other : Eval α) : Prop :=
  ∀ former latter, Machine.Alike comparison.toLikeness former latter →
    comparison.Ends related (step.runOn former) (other.runOn latter)

namespace Agrees

variable {comparison : Comparison} {related : α → α → Prop} {after : β → β → Prop}

theorem pure {value other : α} (here : related value other) :
    Agrees comparison related (pure value) (pure other) :=
  fun _ _ machines => .alike (.ok here) machines

theorem throw {fault : EvalError} (shared : comparison.Shared fault) :
    Agrees comparison related (throw fault) (throw fault) :=
  fun _ _ machines => .alike (.error shared) machines

theorem bind {first other : Eval α} {next nextOther : α → Eval β} (related : α → α → Prop)
    (steps : Agrees comparison related first other)
    (rest : ∀ value another, related value another →
      Agrees comparison after (next value) (nextOther another)) :
    Agrees comparison after (first >>= next) (other >>= nextOther) := by
  intro former latter machines
  have ends := steps former latter machines
  rw [runOn_bind, runOn_bind]
  generalize first.runOn former = run at ends
  generalize other.runOn latter = runOther at ends
  cases ends with
  | alike results machines =>
      cases results with
      | ok here => exact rest _ _ here _ _ machines
      | error shared => exact .alike (.error shared) machines
  -- Nothing is known of the latter run any more, and nothing need be.
  | alone reason => exact .alone reason

theorem map {first other : Eval α} {change : α → β} (steps : Agrees comparison related first other)
    (changes : ∀ value another, related value another → after (change value) (change another)) :
    Agrees comparison after (change <$> first) (change <$> other) := by
  rw [map_eq_pure_bind, map_eq_pure_bind]
  exact bind related steps fun value another here => pure (changes value another here)

/-- Steps that begin with a look at the heap. -/
theorem heap_bind {next nextOther : Heap → Eval β}
    (rest : ∀ former latter, comparison.Alike former latter →
      Agrees comparison after (next former) (nextOther latter)) :
    Agrees comparison after (Eval.heap >>= next) (Eval.heap >>= nextOther) :=
  fun former latter machines => rest former.heap latter.heap machines.heap former latter machines

theorem setHeap {former latter : Heap} (alike : comparison.Alike former latter) :
    Agrees comparison (fun _ _ => True) (Eval.setHeap former) (Eval.setHeap latter) :=
  fun _ _ machines => .alike (.ok trivial) ⟨alike, machines.calls⟩

theorem onHeap {change other : Heap → α × Heap}
    (changes : ∀ former latter, comparison.Alike former latter →
      related (change former).1 (other latter).1 ∧
        comparison.Alike (change former).2 (other latter).2) :
    Agrees comparison related (Eval.onHeap change) (Eval.onHeap other) := by
  intro former latter machines
  obtain ⟨here, alike⟩ := changes former.heap latter.heap machines.heap
  exact .alike (.ok here) ⟨alike, machines.calls⟩

end Agrees

end Eval

/-! ### Names -/

namespace Context

/-- What reading a name gives. Nothing is changed. -/
theorem runOn_read (context : Context) (name : String) (machine : Machine) :
    (context.read name).runOn machine =
      (match context.lookup? machine.heap name with
        | some value => .ok value
        | none => if context.strict then .error (.undefinedVariable name) else .ok .undefined,
        machine) := by
  rw [read, Eval.runOn_heap_bind]
  cases context.lookup? machine.heap name with
  | some value => rfl
  | none => cases context.strict <;> rfl

/-- An assignment writes to the map that it is meant for, unless the context refuses the name. -/
theorem runOn_assign (context : Context) (name : String) (value : Value) (machine : Machine) :
    (context.assign name value).runOn machine =
      if context.strict && !context.contains machine.heap name then
        (.error (.undefinedVariable name), machine)
      else
        match context.target? machine.heap name with
        | some frame => (.ok (), { machine with heap := machine.heap.insert frame name value })
        | none => (.error (.undefinedVariable name), machine) := by
  rw [assign, Eval.runOn_heap_bind]
  cases context.strict && !context.contains machine.heap name with
  | true => rfl
  | false => cases context.target? machine.heap name <;> rfl

/-- A name without a value is one that no map has. -/
theorem holder?_of_lookup? {context : Context} {heap : Heap} {name : String}
    (unbound : context.lookup? heap name = none) : context.holder? heap name = none := by
  cases held : context.holder? heap name with
  | none => rfl
  | some frame =>
      have has := List.find?_some held
      rw [lookup?, held, Option.bind_some, Heap.get?] at unbound
      rw [Dictionary.contains, unbound] at has
      cases has

end Context

namespace Comparison

variable (comparison : Comparison)

/-- Both values of one pair correspond to those of the other. -/
def SameBoth (pair other : Value × Value) : Prop :=
  comparison.Same pair.1 other.1 ∧ comparison.Same pair.2 other.2

/-- The host cannot tell what looks alike apart: given what looks alike, it leaves heaps that look
alike and gives results that correspond to each other. -/
def Trusts (host : Host) : Prop :=
  ∀ function receiver other arguments others former latter, comparison.Same receiver other →
    comparison.AllSame arguments others → comparison.Alike former latter →
    Matches comparison.Shared comparison.Same (host function receiver arguments former).1
        (host function other others latter).1 ∧
      comparison.Alike (host function receiver arguments former).2
        (host function other others latter).2

/-- Reading and assigning the names agrees in the contexts. -/
structure Admits (context other : Context) (names : String → Prop) : Prop where
  reads : ∀ name, names name →
    Eval.Agrees comparison comparison.Same (context.read name) (other.read name)
  writes : ∀ name, names name → ∀ value another, comparison.Same value another →
    Eval.Agrees comparison (fun _ _ => True) (context.assign name value)
      (other.assign name another)

end Comparison

end Parlance
