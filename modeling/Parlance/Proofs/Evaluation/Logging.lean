import Parlance.Evaluation.Meaning
import Parlance.Proofs.Arithmetic.Calling
import Parlance.Proofs.Evaluation.Discipline

/-!
# Logged evaluation

Evaluation again, with a log of what it does: which calls invoke which functions, and which parts it
passes over since they are not needed. Without the log it is evaluation itself, and the log accounts for
every call that the host has seen.
-/

namespace Parlance

/-- What is logged: a call that invokes its function, and a part that is not needed. -/
inductive Event where
  | invoked (call : Expr) (function : Function) (receiver : Value) (arguments : List Value)
  | passedOver (part : Expr)

/-- A step with the events that it leads to on each machine. -/
structure Logged (α : Type) where
  step : Eval α
  log : Machine → List Event

namespace Logged

variable {α β : Type}

/-- A step in which nothing happens that is logged. -/
def of (step : Eval α) : Logged α := ⟨step, fun _ => []⟩

/-- The step with one more event behind it, whether it succeeds or fails. -/
def noting (event : Event) (logged : Logged α) : Logged α :=
  ⟨logged.step, fun machine => logged.log machine ++ [event]⟩

/-- One step after the other. If the first one fails, nothing happens behind it. -/
def bind (first : Logged α) (next : α → Logged β) : Logged β where
  step := do (next (← first.step)).step
  log machine := first.log machine ++
    match first.step.runOn machine with
    | (.ok value, there) => (next value).log there
    | (.error _, _) => []

instance : Monad Logged where
  pure value := of (pure value)
  map change logged := ⟨change <$> logged.step, logged.log⟩
  bind := bind

/-- Nothing but an event. -/
def note (event : Event) : Logged Unit := noting event (return ())

/-- A call invokes a function. -/
def invoke (host : Host) (call : Expr) (function : Function) (receiver : Value)
    (arguments : List Value) : Logged Value :=
  ⟨function.call host receiver arguments, fun _ => [.invoked call function receiver arguments]⟩

end Logged

/-- The uses of an expression, each with its log. -/
structure LoggedMeaning where
  value : Logged Value
  assign : Value → Logged Unit
  arguments : Logged (List Value)
  callee : Logged (Value × Value)

namespace LoggedMeaning

open Logged

/-- The uses without their logs. -/
def meaning (logged : LoggedMeaning) : Meaning where
  value := logged.value.step
  assign value := (logged.assign value).step
  arguments := logged.arguments.step
  callee := logged.callee.step

/-- An expression that only has a value. -/
def ofValue (value : Logged Value) : LoggedMeaning where
  value := value
  assign _ := of (throw .readOnly)
  arguments := return [← value]
  callee := return (.undefined, ← value)

/-- An expression that can also be assigned through. -/
def ofPlace (value : Logged Value) (assign : Value → Logged Unit) : LoggedMeaning :=
  { ofValue value with assign }

/-- A property of an object. -/
def ofProperty {κ : Type} (place : Logged (Value × κ)) (read : Value → κ → Eval Value)
    (write : Value → κ → Value → Eval Unit) : LoggedMeaning :=
  let callee : Logged (Value × Value) := do
    let (object, key) ← place
    return (object, ← of (read object key))
  { ofPlace (Prod.snd <$> callee)
      (fun value => do
        let (object, key) ← place
        of (write object key value)) with
    callee }

/-- A step of the number in a place. -/
def step (operand : LoggedMeaning) (step : Step) : Logged (Value × Value) := do
  let value ← operand.value
  let before := value.toNumber (← of Eval.heap)
  let after := step.apply before
  operand.assign (.number after)
  return (.number before, .number after)

/-- The value of an operator in front of an operand. -/
def unary (operator : UnaryOperator) (operand : LoggedMeaning) : Logged Value :=
  match operator with
  | .stepBy step => Prod.snd <$> operand.step step
  | operator => do
      let value ← operand.value
      return operator.apply (← of Eval.heap) value

/-- The value of an operator between two operands, of which the right one is given. -/
def binary (operator : BinaryOperator) (part : Expr) (left right : LoggedMeaning) :
    Logged Value := do
  let first ← left.value
  match operator with
  | .and => if first.isTruthy then right.value else noting (.passedOver part) (return first)
  | .or => if first.isTruthy then noting (.passedOver part) (return first) else right.value
  | .comma => right.value
  | operator => do
      let second ← right.value
      return operator.apply (← of Eval.heap) first second

/-- The values of a comma list as arguments. -/
def sequence (left right : LoggedMeaning) : Logged (List Value) := do
  let values ← left.arguments
  return values ++ [← right.value]

/-- The call, given as a whole, of what the callee comes to. -/
def call (host : Host) (whole : Expr) (callee : LoggedMeaning) (text : Text)
    (arguments : Logged (List Value)) : Logged Value := do
  let (receiver, target) ← callee.callee
  let arguments ← arguments
  match target with
  | .function function => invoke host whole function receiver arguments
  | _ => of (throw (.notCallable text))

/-- The value of one of two branches, which are given. The other one is passed over. -/
def ternary (first second : Expr) (condition truthy falsy : LoggedMeaning) : Logged Value := do
  if (← condition.value).isTruthy then noting (.passedOver second) truthy.value
  else do
    note (.passedOver first)
    falsy.value

end LoggedMeaning

open LoggedMeaning in
/-- The uses of the expression in a context, each with its log. -/
def Expr.logged (host : Host) (context : Context) : Expr → LoggedMeaning
  | symbol _ name => ofPlace (.of (context.read name)) fun value => .of (context.assign name value)
  | literal _ (.number value) => ofValue (return .number value)
  | literal _ (.string text) => ofValue (return .string text)
  | member _ object property =>
      let object := object.logged host context
      ofProperty (return (← object.value, property)) Value.getProperty Value.setProperty
  | index _ object key =>
      let object := object.logged host context
      let key := key.logged host context
      ofProperty (return (← object.value, ← key.value)) Value.getIndex Value.setIndex
  | call origin callee arguments =>
      ofValue (LoggedMeaning.call host (call origin callee arguments) (callee.logged host context)
        callee.canonical (arguments.logged host context).arguments)
  | callEmpty origin callee =>
      ofValue (LoggedMeaning.call host (callEmpty origin callee) (callee.logged host context)
        callee.canonical (return []))
  | unary _ operator operand =>
      ofValue (LoggedMeaning.unary operator (operand.logged host context))
  | stepAfter _ step operand =>
      ofValue (Prod.fst <$> (operand.logged host context).step step)
  | binary _ operator left right =>
      let first := left.logged host context
      let second := right.logged host context
      let meaning := ofValue (LoggedMeaning.binary operator right first second)
      match operator with
      | .comma => { meaning with arguments := sequence first second }
      | _ => meaning
  | ternary _ condition truthy falsy =>
      ofValue (LoggedMeaning.ternary truthy falsy (condition.logged host context)
        (truthy.logged host context) (falsy.logged host context))
  | wrapper _ inner =>
      let inner := inner.logged host context
      { inner with arguments := return [← inner.value] }

/-! ### Without the log -/

section

variable {α β : Type} (host : Host) (context : Context)

@[simp] theorem Logged.step_bind (first : Logged α) (next : α → Logged β) :
    (first >>= next).step = first.step >>= fun value => (next value).step := rfl

/-- If the first step succeeds, what happens in the next one stands behind what happened before. -/
theorem Logged.log_bind_of_ok {first : Logged α} {next : α → Logged β} {value : α}
    {machine there : Machine} (ran : first.step.runOn machine = (.ok value, there)) :
    (first >>= next).log machine = first.log machine ++ (next value).log there := by
  change first.log machine ++ _ = _
  rw [ran]

namespace LoggedMeaning

theorem meaning_ofValue (value : Logged Value) :
    (ofValue value).meaning = Meaning.ofValue value.step := rfl

theorem step_unary (operator : UnaryOperator) (operand : LoggedMeaning) :
    (unary operator operand).step = Meaning.unary operator operand.meaning := by
  cases operator <;> rfl

theorem step_binary (operator : BinaryOperator) (part : Expr) (left right : LoggedMeaning) :
    (binary operator part left right).step =
      Meaning.binary operator left.meaning right.meaning := by
  rw [binary, Meaning.binary, Logged.step_bind]
  refine congrArg _ (funext fun first => ?_)
  cases operator <;> dsimp only <;> first | rfl | split <;> rfl

theorem step_call (whole : Expr) (callee : LoggedMeaning) (text : Text)
    (arguments : Logged (List Value)) :
    (call host whole callee text arguments).step =
      Meaning.call host callee.meaning text arguments.step := by
  rw [call, Meaning.call, Logged.step_bind]
  refine congrArg _ (funext fun ⟨receiver, target⟩ => ?_)
  rw [Logged.step_bind]
  refine congrArg _ (funext fun values => ?_)
  cases target <;> rfl

theorem step_ternary (first second : Expr) (condition truthy falsy : LoggedMeaning) :
    (ternary first second condition truthy falsy).step = (do
      if (← condition.value.step).isTruthy then truthy.value.step else falsy.value.step) := by
  rw [ternary, Logged.step_bind]
  refine congrArg _ (funext fun value => ?_)
  split <;> rfl

end LoggedMeaning

open LoggedMeaning in
/-- Without the log, logged evaluation is evaluation. -/
theorem Expr.meaning_logged (expr : Expr) :
    (expr.logged host context).meaning = expr.meaning host context := by
  induction expr with
  | symbol => rfl
  | literal _ value => cases value <;> rfl
  | member _ object property ih =>
      rw [Expr.meaning, ← ih]
      rfl
  | index _ object key ihObject ihKey =>
      rw [Expr.meaning, ← ihObject, ← ihKey]
      rfl
  | call _ callee arguments ihCallee ihArguments =>
      rw [Expr.meaning, ← ihCallee, ← ihArguments, logged, meaning_ofValue, step_call]
      rfl
  | callEmpty _ callee ih =>
      rw [Expr.meaning, ← ih, logged, meaning_ofValue, step_call]
      rfl
  | unary _ operator operand ih =>
      rw [Expr.meaning, ← ih, logged, meaning_ofValue, step_unary]
  | stepAfter _ step operand ih =>
      rw [Expr.meaning, ← ih]
      rfl
  | binary _ operator left right ihLeft ihRight =>
      cases operator with
      | comma =>
          rw [Expr.meaning, ← ihLeft, ← ihRight]
          rfl
      | _ =>
          rw [Expr.meaning, ← ihLeft, ← ihRight, ← step_binary _ right]
          · rfl
          · exact nofun
  | ternary _ condition truthy falsy ihCondition ihTruthy ihFalsy =>
      rw [Expr.meaning, ← ihCondition, ← ihTruthy, ← ihFalsy, logged, meaning_ofValue, step_ternary]
      rfl
  | wrapper _ inner ih =>
      rw [Expr.meaning, ← ih]
      rfl

end

/-! ### What is passed over -/

namespace Expr

/-- The operand whose value decides what else of the expression is needed. -/
def decider? : Expr → Option Expr
  | binary _ _ left _ => some left
  | ternary _ condition _ _ => some condition
  | _ => none

/-- The part that is not needed if the operand that decides has this value: the right operand of a
logical operator that is settled by the left one, and the branch that is not selected. -/
def unneeded? (value : Value) : Expr → Option Expr
  | binary _ .and _ right => if value.isTruthy then none else some right
  | binary _ .or _ right => if value.isTruthy then some right else none
  | ternary _ _ truthy falsy => some (if value.isTruthy then falsy else truthy)
  | _ => none

open Logged in
/-- Whenever an expression is evaluated, the part that is not needed is logged as passed over. -/
theorem passedOver_of_unneeded? {host : Host} {context : Context} {machine there : Machine}
    {expr first part : Expr} {value : Value} (decides : expr.decider? = some first)
    (ran : (first.evaluate host context).runOn machine = (.ok value, there))
    (unneeded : expr.unneeded? value = some part) :
    .passedOver part ∈ (expr.logged host context).value.log machine := by
  have same : (first.logged host context).value.step = first.evaluate host context :=
    congrArg Meaning.value (first.meaning_logged host context)
  rw [← same] at ran
  cases expr with
  | binary _ operator left right =>
      cases decides
      cases operator with
      | and =>
          obtain ⟨falsy, rfl⟩ : ¬value.isTruthy ∧ right = part := by
            simpa [unneeded?] using unneeded
          change .passedOver right ∈ (LoggedMeaning.binary .and right _ _).log machine
          rw [LoggedMeaning.binary, log_bind_of_ok ran]
          simp [falsy, noting]
      | or =>
          obtain ⟨truthy, rfl⟩ : value.isTruthy ∧ right = part := by
            simpa [unneeded?] using unneeded
          change .passedOver right ∈ (LoggedMeaning.binary .or right _ _).log machine
          rw [LoggedMeaning.binary, log_bind_of_ok ran]
          simp [truthy, noting]
      | _ => cases unneeded
  | ternary _ condition truthy falsy =>
      cases decides
      cases unneeded
      change _ ∈ (LoggedMeaning.ternary truthy falsy _ _ _).log machine
      rw [LoggedMeaning.ternary, log_bind_of_ok ran]
      cases selected : value.isTruthy with
      | true => simp [noting]
      | false =>
          have noted : (note (.passedOver truthy)).step.runOn there = (.ok (), there) := rfl
          simp only [Bool.false_eq_true, if_false]
          rw [log_bind_of_ok noted]
          simp [note, noting]
  | _ => cases decides

end Expr

/-! ### Steps that call nothing -/

/-- The step makes no call to the host, whether it succeeds or fails. -/
def Eval.CallsNothing {α : Type} (step : Eval α) : Prop :=
  ∀ machine, (step.runOn machine).2.calls = machine.calls

namespace Eval.CallsNothing

variable {α β : Type}

theorem pure (value : α) : CallsNothing (pure value : Eval α) := fun _ => rfl

theorem throw (fault : EvalError) : CallsNothing (throw fault : Eval α) := fun _ => rfl

theorem setHeap (heap : Heap) : CallsNothing (Eval.setHeap heap) := fun _ => rfl

theorem onHeap (change : Heap → α × Heap) : CallsNothing (Eval.onHeap change) := fun _ => rfl

theorem bind {first : Eval α} {next : α → Eval β} (former : first.CallsNothing)
    (latter : ∀ value, (next value).CallsNothing) : (first >>= next).CallsNothing := by
  intro machine
  have same := former machine
  rw [Eval.runOn_bind]
  split
  · rename_i value there ran
    rw [ran] at same
    exact (latter value there).trans same
  · rename_i fault there ran
    rwa [ran] at same

theorem heap_bind {next : Heap → Eval β} (latter : ∀ heap, (next heap).CallsNothing) :
    (Eval.heap >>= next).CallsNothing :=
  bind (fun _ => rfl) latter

end Eval.CallsNothing

open Eval

namespace Value

theorem newMethod_callsNothing (name : String) (code : Option FunctionCode) :
    (newMethod name code).CallsNothing := by
  cases code with
  | some code => exact .bind (.onHeap _) fun _ => .pure _
  | none => exact .pure _

theorem getProperty_callsNothing (value : Value) (name : String) :
    (value.getProperty name).CallsNothing := by
  refine .heap_bind fun heap => ?_
  cases value with
  | undefined => exact .throw _
  | null => exact .throw _
  | list ref =>
      dsimp only
      split
      · exact .pure _
      · split
        · exact .pure _
        · exact newMethod_callsNothing name _
  | string text =>
      dsimp only
      split
      · exact .pure _
      · split
        · exact .pure _
        · exact newMethod_callsNothing name _
  | _ => exact .pure _

theorem getIndex_callsNothing (value key : Value) : (value.getIndex key).CallsNothing :=
  .heap_bind fun _ => getProperty_callsNothing value _

end Value

theorem Context.read_callsNothing (context : Context) (name : String) :
    (context.read name).CallsNothing := by
  refine .heap_bind fun heap => ?_
  split
  · exact .pure _
  · split
    · exact .throw _
    · exact .pure _

theorem ListMethod.call_callsNothing (method : ListMethod) (ref : ListRef) (arguments : List Value) :
    (method.call ref arguments).CallsNothing := by
  refine .heap_bind fun heap => ?_
  cases method with
  | push => exact .bind (.setHeap _) fun _ => .pure _
  | pop => exact .bind (.onHeap _) fun _ => .pure _
  | slice => exact .bind (.onHeap _) fun _ => .pure _
  | _ => exact .pure _

theorem StringMethod.call_callsNothing (method : StringMethod) (text : Text)
    (arguments : List Value) : (method.call text arguments).CallsNothing := by
  refine .heap_bind fun heap => ?_
  cases method with
  | split => exact .bind (.onHeap _) fun _ => .pure _
  | _ => exact .pure _

/-! ### What the host has seen -/

/-- The function, the receiver and the arguments of a call to the host. -/
def HostCall.shown (call : HostCall) : Function × Value × List Value :=
  (call.function, call.receiver, call.arguments)

/-- The call to the host that the event is, if it is one. -/
def Event.shown? : Event → Option (Function × Value × List Value)
  | invoked _ function receiver arguments =>
      match function.code with
      | .host => some (function, receiver, arguments)
      | _ => none
  | passedOver _ => none

/-- The calls that the event says something about. -/
def Event.calls : Event → List Expr
  | invoked call _ _ _ => [call]
  | passedOver part => part.calls

/-- The step calls the host as its log says, and the calls that its log says something about are some
of these, in their order and each at most once. -/
structure Logged.Follows {α : Type} (logged : Logged α) (calls : List Expr) : Prop where
  accounts : ∀ machine, (logged.step.runOn machine).2.calls.map HostCall.shown =
    machine.calls.map HostCall.shown ++ (logged.log machine).filterMap Event.shown?
  within : ∀ machine, ((logged.log machine).flatMap Event.calls).Sublist calls

namespace Logged.Follows

variable {α β : Type} {calls others : List Expr}

theorem of {step : Eval α} (nothing : step.CallsNothing) : (Logged.of step).Follows [] where
  accounts machine := by simp [Logged.of, nothing machine]
  within _ := List.Sublist.refl []

theorem pure (value : α) : (Pure.pure value : Logged α).Follows [] := of (.pure value)

theorem mono {logged : Logged α} (follows : logged.Follows calls) (more : calls.Sublist others) :
    logged.Follows others where
  accounts := follows.accounts
  within machine := (follows.within machine).trans more

theorem bind {first : Logged α} {next : α → Logged β} (former : first.Follows calls)
    (latter : ∀ value, (next value).Follows others) : (first >>= next).Follows (calls ++ others) where
  accounts machine := by
    have seen := former.accounts machine
    change ((first.step >>= fun value => (next value).step).runOn machine).2.calls.map _ =
      _ ++ (first.log machine ++ _).filterMap _
    rw [Eval.runOn_bind]
    generalize first.step.runOn machine = ran at seen
    obtain ⟨fault | value, there⟩ := ran
    · simpa using seen
    · simp only [(latter value).accounts there, List.filterMap_append, ← List.append_assoc, ← seen]
  within machine := by
    change ((first.log machine ++ _).flatMap Event.calls).Sublist _
    rw [List.flatMap_append]
    refine (former.within machine).append ?_
    split
    · exact (latter _).within _
    · exact List.nil_sublist _

/-- What is made of a result adds nothing. -/
theorem bind_pure {logged : Logged α} (follows : logged.Follows calls) (change : α → β) :
    (do return change (← logged) : Logged β).Follows calls := by
  simpa using follows.bind fun value => pure (change value)

theorem map {logged : Logged α} (follows : logged.Follows calls) (change : α → β) :
    (change <$> logged).Follows calls where
  accounts machine := by
    have same : (change <$> logged).step = logged.step >>= fun value => Pure.pure (change value) :=
      map_eq_pure_bind change logged.step
    have seen := follows.accounts machine
    rw [same, Eval.runOn_bind]
    generalize logged.step.runOn machine = ran at seen
    obtain ⟨fault | value, there⟩ := ran <;> exact seen
  within := follows.within

/-- What is done without a part follows what is done, and then come the calls of that part. -/
theorem noting {logged : Logged α} (follows : logged.Follows calls) (part : Expr) :
    (logged.noting (.passedOver part)).Follows (calls ++ part.calls) where
  accounts machine := by simp [Logged.noting, follows.accounts machine, Event.shown?]
  within machine := by
    simpa [Logged.noting, Event.calls] using (follows.within machine).append_right part.calls

/-- A call to a function of the host is seen by the host, a call to a method is not. -/
theorem invoke (host : Host) (call : Expr) (function : Function) (receiver : Value)
    (arguments : List Value) :
    (Logged.invoke host call function receiver arguments).Follows [call] where
  accounts machine := by
    cases code : function.code with
    | listMethod method =>
        have nothing : (function.call host receiver arguments).CallsNothing := by
          simp only [Function.call, code]
          split
          · exact ListMethod.call_callsNothing _ _ _
          · exact .throw _
        simp [Logged.invoke, nothing machine, Event.shown?, code]
    | stringMethod method =>
        have nothing : (function.call host receiver arguments).CallsNothing := by
          simp only [Function.call, code]
          split
          · exact StringMethod.call_callsNothing _ _ _
          · exact .throw _
        simp [Logged.invoke, nothing machine, Event.shown?, code]
    | host =>
        have called : ((function.call host receiver arguments).runOn machine).2.calls =
            machine.calls ++ [⟨function, receiver, arguments, machine.heap⟩] := by
          simp only [Function.call, code]
          rfl
        simp [Logged.invoke, called, HostCall.shown, Event.shown?, code]
  within _ := List.Sublist.refl [call]

end Logged.Follows

end Parlance
