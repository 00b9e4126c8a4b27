import Parlance.Proofs.Evaluation.Congruence

/-!
# Strictness only adds failures

In a strict context it is an error to read or to assign a name that none of the maps has. That is
all that strictness does: a run that does not fail in this way is the same in a lenient context.
-/

namespace Parlance

variable {host : Host} {context : Context} {frames : List MapRef} {value other : Value}

/-- A value corresponds to itself alone if every map is linked to itself. -/
theorem Value.corresponds_eq_iff : Value.Corresponds Eq value other ↔ value = other := by
  constructor
  · rintro (_ | rfl) <;> rfl
  · rintro rfl
    cases value with
    | map ref => exact .map rfl
    | _ => exact .same (by simp)

/-- Lists of equal elements are equal. -/
theorem forall₂_iff_eq {α : Type} {related : α → α → Prop} {values others : List α}
    (equal : ∀ value other, related value other ↔ value = other) :
    List.Forall₂ related values others ↔ values = others := by
  have same : related = Eq := funext fun value => funext fun other => propext (equal value other)
  rw [same, List.forall₂_eq_eq_eq]

namespace Likeness

/-- Heaps look alike only if they are the same. -/
def identity : Likeness where
  Linked := Eq
  Alike := Eq
  oneToOne := by
    rintro first _ second _ rfl rfl
    exact Iff.rfl
  lists := by
    rintro heap _ rfl
    rfl
  functions := by
    rintro heap _ rfl
    rfl
  items := by
    rintro heap _ rfl ref
    exact List.forall₂_same.2 fun value _ => Value.corresponds_eq_iff.2 rfl
  entry := by
    rintro heap _ rfl ref _ rfl name
    cases heap.get? ref name with
    | none => exact .none
    | some value => exact .some (Value.corresponds_eq_iff.2 rfl)
  setItems := by
    rintro heap _ rfl items others all ref
    rw [(forall₂_iff_eq fun _ _ => Value.corresponds_eq_iff).1 all]
  insert := by
    rintro heap _ rfl ref _ rfl value other same name
    rw [Value.corresponds_eq_iff.1 same]
  newList := by
    rintro heap _ rfl items others all
    rw [(forall₂_iff_eq fun _ _ => Value.corresponds_eq_iff).1 all]
  newFunction := by
    rintro heap _ rfl name code
    rfl

theorem same_identity_iff : identity.Same value other ↔ value = other := Value.corresponds_eq_iff

theorem allSame_identity_iff {values others : List Value} :
    identity.AllSame values others ↔ values = others :=
  forall₂_iff_eq fun _ _ => same_identity_iff

end Likeness

open Likeness

theorem HostCall.alike_identity_iff {call another : HostCall} :
    call.Alike identity another ↔ call = another := by
  constructor
  · rintro ⟨name, receiver, arguments, heap⟩
    cases call
    cases another
    rw [same_identity_iff] at receiver
    rw [allSame_identity_iff] at arguments
    simp_all [identity]
  · rintro rfl
    exact ⟨rfl, same_identity_iff.2 rfl, allSame_identity_iff.2 rfl, rfl⟩

theorem Machine.alike_identity_iff {former latter : Machine} :
    former.Alike identity latter ↔ former = latter := by
  constructor
  · rintro ⟨heap, calls⟩
    cases former
    cases latter
    have calls := (forall₂_iff_eq fun _ _ => HostCall.alike_identity_iff).1 calls
    simp_all [identity]
  · rintro rfl
    exact ⟨rfl, List.forall₂_same.2 fun call _ => HostCall.alike_identity_iff.2 rfl⟩

/-- The runs end the same, unless the former one fails alone with a name that none of the maps
has. -/
def strictness (frames : List MapRef) : Comparison where
  toLikeness := identity
  Shared fault := ∀ name, fault ≠ .undefinedVariable name
  Alone fault heap := ∃ name, fault = .undefinedVariable name ∧
    ∀ frame ∈ frames, (heap.entries frame).contains name = false
  shared _ := id

/-- The errors of the functions of the host are errors of the host. -/
def Host.RaisesOwnErrors (host : Host) : Prop :=
  ∀ function receiver arguments heap fault,
    (host function receiver arguments heap).1 = .error fault → ∃ message, fault = .host message

theorem Host.RaisesOwnErrors.trusts (raises : host.RaisesOwnErrors) :
    (strictness frames).Trusts host := by
  intro function receiver other arguments others former latter same all alike
  obtain rfl := same_identity_iff.1 same
  obtain rfl := allSame_identity_iff.1 all
  obtain rfl : former = latter := alike
  refine ⟨?_, rfl⟩
  cases outcome : (host function receiver arguments former).1 with
  | ok value => exact .ok (same_identity_iff.2 rfl)
  | error fault =>
      obtain ⟨message, rfl⟩ := raises _ _ _ _ _ outcome
      exact .error nofun

namespace Context

/-- The same context, except that unknown names are no errors. -/
def lenient (context : Context) : Context := { context with strict := false }

theorem holder?_eq_none {heap : Heap} {name : String} (unheld : context.holder? heap name = none) :
    ∀ frame ∈ context.frames, (heap.entries frame).contains name = false := by
  intro frame member
  exact Bool.eq_false_iff.2 (List.find?_eq_none.1 unheld frame member)

/-- Reading and assigning a name in a strict context fails alone only if no map has it. -/
theorem lenient_admits (context : Context) :
    (strictness context.frames).Admits context context.lenient fun _ => True where
  reads name _ := by
    intro machine latter machines
    obtain rfl := Machine.alike_identity_iff.1 machines
    have lookup : context.lenient.lookup? machine.heap name =
        context.lookup? machine.heap name := rfl
    rw [runOn_read, runOn_read, lookup]
    cases bound : context.lookup? machine.heap name with
    | some value => exact .alike (.ok (same_identity_iff.2 rfl)) machines
    | none =>
        cases context.strict with
        | true => exact .alone ⟨name, rfl, holder?_eq_none (holder?_of_lookup? bound)⟩
        | false => exact .alike (.ok (same_identity_iff.2 rfl)) machines
  writes name _ value another same := by
    intro machine latter machines
    obtain rfl := Machine.alike_identity_iff.1 machines
    obtain rfl := same_identity_iff.1 same
    have target : context.lenient.target? machine.heap name =
        context.target? machine.heap name := rfl
    rw [runOn_assign, runOn_assign, target]
    split
    · rename_i refused
      rw [Bool.and_eq_true, Bool.not_eq_true', contains, Option.isSome_eq_false_iff,
        Option.isNone_iff_eq_none] at refused
      exact .alone ⟨name, rfl, holder?_eq_none refused.2⟩
    · cases found : context.target? machine.heap name with
      | some frame => exact .alike (.ok trivial) ⟨rfl, machines.calls⟩
      | none =>
          refine .alone ⟨name, rfl, holder?_eq_none ?_⟩
          unfold target? at found
          split at found <;> simp_all

end Context

/-- On this machine the strict step differs from the lenient one at most by failing: it fails with a
name that none of the maps has at that moment, or else both end the same. -/
structure Eval.OnlyAddsFailures {α : Type} (frames : List MapRef) (strict lenient : Eval α)
    (machine : Machine) : Prop where
  same : (∀ name, (strict.runOn machine).1 ≠ .error (.undefinedVariable name)) →
    lenient.runOn machine = strict.runOn machine
  unheld : ∀ name, (strict.runOn machine).1 = .error (.undefinedVariable name) →
    ∀ frame ∈ frames, ((strict.runOn machine).2.heap.entries frame).contains name = false

theorem Eval.Agrees.onlyAddsFailures {α : Type} {related : α → α → Prop}
    {strict lenient : Eval α} (agrees : strict.Agrees (strictness frames) related lenient)
    (equal : ∀ result another, related result another → result = another) (machine : Machine) :
    Eval.OnlyAddsFailures frames strict lenient machine := by
  have ends := agrees machine machine (Machine.alike_identity_iff.2 rfl)
  constructor
  · intro known
    generalize strict.runOn machine = run at ends known
    generalize lenient.runOn machine = runLenient at ends
    cases ends with
    | alike results machines =>
        obtain rfl := Machine.alike_identity_iff.1 machines
        cases results with
        | ok here => rw [equal _ _ here]
        | error _ => rfl
    | alone reason =>
        obtain ⟨name, rfl, _⟩ := reason
        exact absurd rfl (known name)
  · intro name failed
    generalize strict.runOn machine = run at ends failed
    generalize lenient.runOn machine = runLenient at ends
    cases ends with
    | alike results machines =>
        cases results with
        | ok _ => cases failed
        | error shared =>
            cases failed
            exact absurd rfl (shared name)
    | alone reason =>
        obtain ⟨other, rfl, unheld⟩ := reason
        cases failed
        exact unheld

/-- Options that differ in strictness make contexts over the same maps. -/
theorem Context.make_lenient (heap : Heap) (scope : MapRef) (locals : Option MapRef)
    (rawScope : Bool) :
    make heap scope locals ⟨rawScope, true⟩ =
      ((make heap scope locals ⟨rawScope, false⟩).1.lenient,
        (make heap scope locals ⟨rawScope, false⟩).2) := by
  cases rawScope <;> rfl

/-- If the step in a strict context differs from the one in the lenient context only by failing,
so it does when the contexts are made for it. -/
theorem Eval.OnlyAddsFailures.inMade {α : Type} {step : Context → Eval α}
    (adds : ∀ context machine,
      OnlyAddsFailures context.frames (step context) (step context.lenient) machine)
    (scope : MapRef) (locals : Option MapRef) (rawScope : Bool) (machine : Machine) :
    OnlyAddsFailures (Context.make machine.heap scope locals ⟨rawScope, false⟩).1.frames
      (do step (← onHeap fun heap => Context.make heap scope locals ⟨rawScope, false⟩))
      (do step (← onHeap fun heap => Context.make heap scope locals ⟨rawScope, true⟩)) machine := by
  have lenient := Context.make_lenient machine.heap scope locals rawScope
  cases made : Context.make machine.heap scope locals ⟨rawScope, false⟩ with
  | mk context start =>
      rw [made] at lenient
      have inside := adds context ⟨start, machine.calls⟩
      constructor <;> simp only [runOn_bind, runOn_onHeap, made, lenient]
      · exact inside.same
      · exact inside.unheld

/-- Strictness only adds failures to evaluation and to assignment, where a name is met that none of
the maps has. The functions of the host must not fail in that way themselves. -/
theorem Expr.strict_onlyAddsFailures (raises : host.RaisesOwnErrors) (expr : Expr)
    (scope : MapRef) (locals : Option MapRef) (rawScope : Bool) (machine : Machine) :
    (Context.make machine.heap scope locals ⟨rawScope, true⟩).1.frames =
        (Context.make machine.heap scope locals ⟨rawScope, false⟩).1.frames ∧
      Eval.OnlyAddsFailures (Context.make machine.heap scope locals ⟨rawScope, false⟩).1.frames
        (expr.evaluateWith host scope locals ⟨rawScope, false⟩)
        (expr.evaluateWith host scope locals ⟨rawScope, true⟩) machine ∧
      ∀ value, Eval.OnlyAddsFailures
        (Context.make machine.heap scope locals ⟨rawScope, false⟩).1.frames
        (expr.assignWith host scope locals ⟨rawScope, false⟩ value)
        (expr.assignWith host scope locals ⟨rawScope, true⟩ value) machine := by
  have agrees (context : Context) : (expr.meaning host context).Agrees (strictness context.frames)
      (expr.meaning host context.lenient) :=
    expr.meaning_agrees raises.trusts context.lenient_admits fun _ _ => trivial
  refine ⟨?_, ?_, fun value => ?_⟩
  · rw [Context.make_lenient]
    rfl
  · refine .inMade (fun context machine => ?_) scope locals rawScope machine
    exact (agrees context).value.onlyAddsFailures (fun _ _ => same_identity_iff.1) machine
  · refine .inMade (fun context machine => ?_) scope locals rawScope machine
    exact ((agrees context).assign value value (same_identity_iff.2 rfl)).onlyAddsFailures
      (fun _ _ _ => rfl) machine

section

/-- A host that refuses every call. -/
def refusingHost : Host := fun function _ _ heap =>
  (.error (.host (function.name ++ " is refused")), heap)

theorem refusingHost_raisesOwnErrors : refusingHost.RaisesOwnErrors := by
  rintro function receiver arguments heap _ ⟨⟩
  exact ⟨_, rfl⟩

/-- A scope with a count and a function of the host. -/
def tally : Machine :=
  .ofHeap (Heap.empty.newMap
    (.ofList [("count", .number 1), ("tell", .function ⟨0, "tell", .host⟩)])).2

/-- Steps the count and then reads a name that no map has. -/
def countThenMissing : Expr :=
  .binary ⟨"operator", 0, 14⟩ .comma
    (.stepAfter ⟨"postfix", 0, 7⟩ .increment (.symbol ⟨"identifier", 0, 5⟩ "count"))
    (.symbol ⟨"identifier", 8, 6⟩ "absent")

/-- Steps the count and then calls the host. -/
def countThenTell : Expr :=
  .binary ⟨"operator", 0, 14⟩ .comma
    (.stepAfter ⟨"postfix", 0, 7⟩ .increment (.symbol ⟨"identifier", 0, 5⟩ "count"))
    (.callEmpty ⟨"call", 8, 6⟩ (.symbol ⟨"identifier", 8, 4⟩ "tell"))

theorem tally_onlyAddsFailures :
    (∃ there, (countThenMissing.evaluateWith refusingHost ⟨0⟩ none ⟨true, false⟩).runOn tally =
        (.error (.undefinedVariable "absent"), there) ∧
      (there.heap.entries ⟨0⟩).contains "absent" = false) ∧
    ∃ there, (countThenTell.evaluateWith refusingHost ⟨0⟩ none ⟨false, false⟩).runOn tally =
        (.error (.host "tell is refused"), there) ∧
      (countThenTell.evaluateWith refusingHost ⟨0⟩ none ⟨false, true⟩).runOn tally =
        (.error (.host "tell is refused"), there) := by
  constructor
  · refine ⟨_, rfl, ?_⟩
    have adds := (Expr.strict_onlyAddsFailures refusingHost_raisesOwnErrors countThenMissing ⟨0⟩
      none true tally).2.1
    exact adds.unheld "absent" rfl ⟨0⟩ (List.mem_singleton.2 rfl)
  · refine ⟨_, rfl, ?_⟩
    have adds := (Expr.strict_onlyAddsFailures refusingHost_raisesOwnErrors countThenTell ⟨0⟩
      none false tally).2.1
    exact adds.same nofun

end

end Parlance
