import Parlance.Proofs.Arithmetic.Calling
import Parlance.Proofs.Evaluation.Logging

/-!
# The order of calls

Where no step writes back, evaluation does each part of an expression at most once and from left to
right, and a part that is not needed is passed over as a whole. So the calls that a source makes follow
the order in which their brackets close, and none of them is in a part that is passed over.
-/

namespace Parlance

/-! ### Expressions without steps -/

/-- No part of the expression is a step of a number in a place. -/
def Expr.StepFree : Expr → Prop
  | symbol _ _ => True
  | literal _ _ => True
  | member _ object _ => object.StepFree
  | index _ object key => object.StepFree ∧ key.StepFree
  | call _ callee arguments => callee.StepFree ∧ arguments.StepFree
  | callEmpty _ callee => callee.StepFree
  | unary _ operator operand => (∀ step, operator ≠ .stepBy step) ∧ operand.StepFree
  | stepAfter _ _ _ => False
  | binary _ _ left right => left.StepFree ∧ right.StepFree
  | ternary _ condition truthy falsy => condition.StepFree ∧ truthy.StepFree ∧ falsy.StepFree
  | wrapper _ inner => inner.StepFree

@[simp] theorem Expr.stepFree_wrap (expr : Expr) (origin : Origin) :
    (expr.wrap origin).StepFree ↔ expr.StepFree := by
  cases expr <;> rfl

namespace Arithmetic

variable {nodes : List Node} {node : Node} {made value : Expr}

/-- The node writes no step, and what it holds has none. -/
structure HoldsNoStep (node : Node) : Prop where
  text : node.isToken = true → ∀ step : Step, textOf node ≠ step.symbol.toList
  inside : ∀ inner, compileInside node = .ok inner → inner.StepFree

theorem Atom.stepFree (atom : Atom node made) (holds : HoldsNoStep node) : made.StepFree := by
  cases atom with
  | paren _ compiled => exact (Expr.stepFree_wrap _ _).2 (holds.inside _ compiled)
  | _ => trivial

theorem Link.stepFree (link : Link value nodes made) (before : value.StepFree)
    (holds : ∀ node ∈ nodes, HoldsNoStep node) : made.StepFree := by
  cases link with
  | member => exact before
  | callEmpty => exact before
  | call _ _ compiled => exact ⟨before, (holds _ (by simp)).inside _ compiled⟩
  | index _ compiled => exact ⟨before, (holds _ (by simp)).inside _ compiled⟩

/-- Nodes that write no step build no step. -/
theorem Builds.stepFree (builds : Builds nodes made) (holds : ∀ node ∈ nodes, HoldsNoStep node) :
    made.StepFree := by
  induction builds with
  | atom atom => exact atom.stepFree (holds _ (by simp))
  | link _ link ih =>
      exact link.stepFree (ih fun node member => holds node (List.mem_append_left _ member))
        fun node member => holds node (List.mem_append_right _ member)
  | @step _ _ node step _ named writes _ =>
      exact absurd writes ((holds node (by simp)).text named.1 step)
  | @unary node _ operator _ named writes _ ih =>
      refine ⟨?_, ih fun node member => holds node (List.mem_cons_of_mem _ member)⟩
      rintro step rfl
      exact (holds node (by simp)).text named.1 step writes
  | binary _ _ _ ihLeft ihRight =>
      exact ⟨ihLeft fun node member => holds node (by simp [member]),
        ihRight fun node member => holds node (by simp [member])⟩
  | ternary _ _ _ _ _ ih ihTruthy ihFalsy =>
      exact ⟨ih fun node member => holds node (by simp [member]),
        ihTruthy fun node member => holds node (by simp [member]),
        ihFalsy fun node member => holds node (by simp [member])⟩

theorem stepFree_of_compileInside (noStep : ∀ inner, node.Contains inner → inner.isToken = true →
      ∀ step : Step, textOf inner ≠ step.symbol.toList)
    (compiled : compileInside node = .ok made) : made.StepFree := by
  revert noStep
  refine compileInside_induction ?_ compiled
  intro node made builds inside noStep
  refine builds.stepFree fun child member => ?_
  have contains : node.Contains child := .child .self member
  exact ⟨noStep child contains, fun inner compiled =>
    inside child member inner compiled fun other within => noStep other (contains.trans within)⟩

/-- The text of a token stands in the source. -/
theorem textOf_infix {source : Text} {tree : Node} {options : ParseOptions}
    (parsed : grammar.parse options source = .ok tree) (contains : tree.Contains node)
    (isToken : node.isToken = true) : textOf node <:+: source := by
  obtain ⟨placed, whole⟩ := Grammar.parse_placed grammar_findsPrefixes parsed
  obtain ⟨earlier, later, source_eq, _⟩ := contains.placed placed
  rw [List.nil_append, whole] at source_eq
  cases node with
  | group => cases isToken
  | token name position length content leading =>
      exact ⟨earlier ++ leading, later, by simp [source_eq, Node.text, textOf, Node.content?]⟩

/-- A source without the symbols of steps compiles to an expression without steps. -/
theorem stepFree_of_compile {source : Text} (compiled : compile source = .ok made)
    (noStep : ∀ step : Step, ¬step.symbol.toList <:+: source) : made.StepFree := by
  unfold compile at compiled
  split at compiled
  · rename_i tree parsed
    refine stepFree_of_compileInside (fun inner contains isToken step writes => ?_) compiled
    exact noStep step (writes ▸ textOf_infix parsed contains isToken)
  · cases compiled

end Arithmetic

/-! ### What is logged -/

namespace LoggedMeaning

open Logged

/-- In every use but an assignment, these are the calls in their order. -/
structure Follows (meaning : LoggedMeaning) (calls : List Expr) : Prop where
  value : meaning.value.Follows calls
  arguments : meaning.arguments.Follows calls
  callee : meaning.callee.Follows calls

variable {meaning left right condition truthy falsy : LoggedMeaning}
  {calls others more : List Expr}

theorem follows_ofValue {value : Logged Value} (follows : value.Follows calls) :
    (ofValue value).Follows calls where
  value := follows
  arguments := follows.bind_pure fun value => [value]
  callee := follows.bind_pure fun value => (Value.undefined, value)

theorem follows_ofPlace {value : Logged Value} {assign : Value → Logged Unit}
    (follows : value.Follows calls) : (ofPlace value assign).Follows calls :=
  ⟨follows, (follows_ofValue follows).arguments, (follows_ofValue follows).callee⟩

theorem follows_ofProperty {κ : Type} {place : Logged (Value × κ)} {read : Value → κ → Eval Value}
    {write : Value → κ → Value → Eval Unit} (follows : place.Follows calls)
    (reads : ∀ object key, (read object key).CallsNothing) :
    (ofProperty place read write).Follows calls := by
  have callee : (ofProperty place read write).callee.Follows calls := by
    rw [← List.append_nil calls]
    exact follows.bind fun pair =>
      (Follows.of (reads pair.1 pair.2)).bind_pure fun value => (pair.1, value)
  exact ⟨callee.map Prod.snd, (callee.map Prod.snd).bind_pure fun value => [value], callee⟩

theorem follows_unary {operator : UnaryOperator} (noStep : ∀ step, operator ≠ .stepBy step)
    (follows : meaning.Follows calls) : (unary operator meaning).Follows calls := by
  have applies : (do
      let value ← meaning.value
      return operator.apply (← Logged.of Eval.heap) value : Logged Value).Follows calls := by
    rw [← List.append_nil calls]
    exact follows.value.bind fun value =>
      (Follows.of fun _ => rfl).bind_pure fun heap => operator.apply heap value
  cases operator with
  | stepBy step => exact absurd rfl (noStep step)
  | _ => exact applies

/-- The right operand comes behind the left one, or it is passed over. -/
theorem follows_binary (operator : BinaryOperator) {part : Expr} (first : left.Follows calls)
    (second : right.Follows part.calls) :
    (binary operator part left right).Follows (calls ++ part.calls) := by
  refine first.value.bind fun value => ?_
  have skips : (Logged.noting (.passedOver part) (return value)).Follows part.calls :=
    (Follows.pure value).noting part
  have applies : (do
      let other ← right.value
      return operator.apply (← Logged.of Eval.heap) value other : Logged Value).Follows
        part.calls := by
    rw [← List.append_nil part.calls]
    exact second.value.bind fun other =>
      (Follows.of fun _ => rfl).bind_pure fun heap => operator.apply heap value other
  cases operator with
  | and =>
      dsimp only
      split
      · exact second.value
      · exact skips
  | or =>
      dsimp only
      split
      · exact skips
      · exact second.value
  | comma => exact second.value
  | _ => exact applies

theorem follows_sequence (first : left.Follows calls) (second : right.Follows others) :
    (sequence left right).Follows (calls ++ others) :=
  first.arguments.bind fun values => second.value.bind_pure fun value => values ++ [value]

/-- The call comes behind what is called and the arguments. -/
theorem follows_call (host : Host) (whole : Expr) (text : Text) {arguments : Logged (List Value)}
    (target : meaning.Follows calls) (given : arguments.Follows others) :
    (call host whole meaning text arguments).Follows (calls ++ (others ++ [whole])) := by
  refine target.callee.bind fun pair => given.bind fun values => ?_
  obtain ⟨receiver, target⟩ := pair
  cases target with
  | function function => exact Follows.invoke host whole function receiver values
  | _ => exact (Follows.of (.throw _)).mono (List.nil_sublist _)

/-- One branch comes behind the condition, and the other one is passed over in its place. -/
theorem follows_ternary {first second : Expr} (test : condition.Follows calls)
    (yes : truthy.Follows first.calls) (no : falsy.Follows second.calls) :
    (ternary first second condition truthy falsy).Follows
      (calls ++ (first.calls ++ second.calls)) := by
  refine test.value.bind fun value => ?_
  split
  · exact yes.value.noting second
  · exact ((Follows.pure ()).noting first).bind fun _ => no.value

end LoggedMeaning

open LoggedMeaning in
/-- Without steps, evaluation follows the calls of the expression. -/
theorem Expr.logged_follows (host : Host) (context : Context) {expr : Expr}
    (stepFree : expr.StepFree) : (expr.logged host context).Follows expr.calls := by
  induction expr with
  | symbol _ name => exact follows_ofPlace (.of (context.read_callsNothing name))
  | literal _ value => cases value <;> exact follows_ofValue (.pure _)
  | member _ object property ih =>
      exact follows_ofProperty ((ih stepFree).value.bind_pure fun value => (value, property))
        Value.getProperty_callsNothing
  | index _ object key ihObject ihKey =>
      refine follows_ofProperty ((ihObject stepFree.1).value.bind fun value => ?_)
        Value.getIndex_callsNothing
      exact (ihKey stepFree.2).value.bind_pure fun name => (value, name)
  | call _ callee arguments ihCallee ihArguments =>
      rw [calls, List.append_assoc]
      exact follows_ofValue (follows_call host _ _ (ihCallee stepFree.1)
        (ihArguments stepFree.2).arguments)
  | callEmpty _ callee ih => exact follows_ofValue (follows_call host _ _ (ih stepFree) (.pure []))
  | unary _ operator operand ih =>
      exact follows_ofValue (follows_unary stepFree.1 (ih stepFree.2))
  | stepAfter => cases stepFree
  | binary _ operator left right ihLeft ihRight =>
      have first := ihLeft stepFree.1
      have second := ihRight stepFree.2
      have meaning := follows_ofValue (follows_binary operator first second)
      cases operator with
      | comma => exact ⟨meaning.value, follows_sequence first second, meaning.callee⟩
      | _ => exact meaning
  | ternary _ condition truthy falsy ihCondition ihTruthy ihFalsy =>
      rw [calls, List.append_assoc]
      exact follows_ofValue (follows_ternary (ihCondition stepFree.1) (ihTruthy stepFree.2.1)
        (ihFalsy stepFree.2.2))
  | wrapper _ inner ih =>
      have follows := ih stepFree
      exact ⟨follows.value, follows.value.bind_pure fun value => [value], follows.callee⟩

/-! ### Calls of a source -/

/-- The call that invokes its function, if the event is that. -/
def Event.invoked? : Event → Option Expr
  | invoked call _ _ _ => some call
  | passedOver _ => none

/-- The part that is passed over, if the event is that. -/
def Event.passedOver? : Event → Option Expr
  | invoked _ _ _ _ => none
  | passedOver part => some part

/-- The calls that invoke their functions, one after the other. -/
def invocations (events : List Event) : List Expr := events.filterMap Event.invoked?

theorem mem_invocations_iff {events : List Event} {call : Expr} : call ∈ invocations events ↔
    ∃ function receiver arguments, .invoked call function receiver arguments ∈ events := by
  rw [invocations, List.mem_filterMap]
  constructor
  · rintro ⟨event, member, same⟩
    cases event with
    | invoked => cases same; exact ⟨_, _, _, member⟩
    | passedOver => cases same
  · rintro ⟨function, receiver, arguments, member⟩
    exact ⟨_, member, rfl⟩

theorem invocations_sublist (events : List Event) :
    (invocations events).Sublist (events.flatMap Event.calls) := by
  induction events with
  | nil => exact .slnil
  | cons event rest ih =>
      cases event with
      | invoked => exact ih.cons_cons _
      | passedOver part => exact ih.trans (List.sublist_append_right part.calls _)

/-- If no two events say something about one call, no call in a part that is passed over invokes its
function. -/
theorem not_mem_invocations {events : List Event} (apart : (events.flatMap Event.calls).Nodup)
    {part call : Expr} (passed : .passedOver part ∈ events) (inside : call ∈ part.calls) :
    call ∉ invocations events := by
  rw [mem_invocations_iff]
  rintro ⟨function, receiver, arguments, invoked⟩
  have symmetric : Std.Symm (Function.onFun List.Disjoint Event.calls) :=
    ⟨fun _ _ => List.Disjoint.symm⟩
  have disjoint := (List.nodup_flatMap.1 apart).2.forall passed invoked nofun
  exact disjoint inside (List.mem_singleton.2 rfl)

/-- On this machine, evaluation is what is logged, which accounts for all calls to the host; the calls
that invoke their functions are calls of the source, in the order of their closing parentheses and so
each at most once; and no call in a part that is passed over is among them. -/
structure RunsInOrder (source : Text) (expr : Expr) (host : Host) (context : Context)
    (machine : Machine) : Prop where
  evaluates : (expr.logged host context).value.step = expr.evaluate host context
  accounts : ((expr.evaluate host context).runOn machine).2.calls.map HostCall.shown =
    machine.calls.map HostCall.shown ++
      ((expr.logged host context).value.log machine).filterMap Event.shown?
  closes : ∀ call ∈ invocations ((expr.logged host context).value.log machine),
    call ∈ expr.calls ∧ source.ClosesAt call.origin.stop
  ordered : (invocations ((expr.logged host context).value.log machine)).Pairwise
    fun former later => former.origin.stop < later.origin.stop
  spared : ∀ part, .passedOver part ∈ (expr.logged host context).value.log machine →
    ∀ call ∈ part.calls, call ∉ invocations ((expr.logged host context).value.log machine)

namespace Arithmetic

/-- Whatever a source without steps compiles to has the calls of its tree and invokes them in the order
in which their parentheses close, whether it succeeds or fails. -/
theorem calls_run_in_order {source : Text} {made : Expr} (compiled : compile source = .ok made)
    (noIncrement : ¬"++".toList <:+: source) (noDecrement : ¬"--".toList <:+: source) :
    (∃ tree, grammar.parse .plain source = .ok tree ∧
      List.Forall₂ IsCallOf made.calls tree.calls) ∧
    ∀ host context machine, RunsInOrder source made host context machine := by
  obtain ⟨tree, parsed, calls, ordered, closes⟩ := calls_of_compile compiled
  refine ⟨⟨tree, parsed, calls⟩, fun host context machine => ?_⟩
  have stepFree := stepFree_of_compile compiled fun step => by cases step <;> assumption
  have evaluates : (made.logged host context).value.step = made.evaluate host context :=
    congrArg Meaning.value (made.meaning_logged host context)
  have follows := (Expr.logged_follows host context stepFree).value
  have within := follows.within machine
  have invoked := (invocations_sublist _).trans within
  -- No two calls end at one place, so none is listed twice.
  have nodup : made.calls.Nodup := ordered.imp fun {former later} apart same => by
    rw [same] at apart
    exact Nat.lt_irrefl _ apart
  exact {
    evaluates := evaluates
    accounts := evaluates ▸ follows.accounts machine
    closes := fun call member => ⟨invoked.subset member, closes call (invoked.subset member)⟩
    ordered := ordered.sublist invoked
    spared := fun part passed call inside =>
      not_mem_invocations (nodup.sublist within) passed inside }

/-- A host whose functions give their first argument back. -/
def givingBack : Host := fun _ _ arguments heap => (.ok (arguments.headD .undefined), heap)

/-- One map with a function of the host in it. -/
def oneFunction : Heap where
  lists := #[]
  maps := #[.ofList [("f", .function ⟨0, "f", .host⟩)]]
  functions := 1

/-- Of four calls the argument, the call around it and the second operand are invoked, in this order, and
only the last operand is passed over. -/
theorem calls_run_in_order_nested : ∃ made,
    compile "f('a', f('b').length) && f('c') || f('d')".toList = .ok made ∧
    ¬"++".toList <:+: "f('a', f('b').length) && f('c') || f('d')".toList ∧
    ¬"--".toList <:+: "f('a', f('b').length) && f('c') || f('d')".toList ∧
    (invocations ((made.logged givingBack ⟨[⟨0⟩], none, true⟩).value.log
      (.ofHeap oneFunction))).map (·.origin.stop) = [13, 21, 31] ∧
    (((made.logged givingBack ⟨[⟨0⟩], none, true⟩).value.log
      (.ofHeap oneFunction)).filterMap Event.passedOver?).map (·.origin.stop) = [41] ∧
    RunsInOrder "f('a', f('b').length) && f('c') || f('d')".toList made givingBack
      ⟨[⟨0⟩], none, true⟩ (.ofHeap oneFunction) := by
  have logged : (compile "f('a', f('b').length) && f('c') || f('d')".toList).toOption.map
      (fun made =>
        let log := (made.logged givingBack ⟨[⟨0⟩], none, true⟩).value.log (.ofHeap oneFunction)
        ((invocations log).map (·.origin.stop),
          (log.filterMap Event.passedOver?).map (·.origin.stop))) = some ([13, 21, 31], [41]) := by
    decide +kernel
  obtain ⟨made, compiled, stops⟩ := Option.map_eq_some_iff.1 logged
  obtain ⟨invoked, passed⟩ := Prod.mk.inj stops
  have compiled := toOption_eq_some_iff.1 compiled
  have noIncrement : ¬"++".toList <:+: "f('a', f('b').length) && f('c') || f('d')".toList := by
    decide +kernel
  have noDecrement : ¬"--".toList <:+: "f('a', f('b').length) && f('c') || f('d')".toList := by
    decide +kernel
  exact ⟨made, compiled, noIncrement, noDecrement, invoked, passed,
    (calls_run_in_order compiled noIncrement noDecrement).2 _ _ _⟩

end Arithmetic

end Parlance
