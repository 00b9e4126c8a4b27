import Parlance.Proofs.Evaluation.Agreement
import Parlance.Proofs.Evaluation.Location

/-!
# The effect of expressions

An expression without calls and steps only reads: whether it comes to a value or fails, all lists
and maps are as before. An assignment through it writes to one slot, or fails and changes nothing. As
nothing is called, it does not matter which host there is.
-/

namespace Parlance

variable {host : Host} {context : Context} {machine there : Machine} {value : Value}

/-- No part of the expression is a call or a step of a number in a place. -/
def Expr.Quiet : Expr → Prop
  | symbol _ _ => True
  | literal _ _ => True
  | member _ object _ => object.Quiet
  | index _ object key => object.Quiet ∧ key.Quiet
  | call _ _ _ => False
  | callEmpty _ _ => False
  | unary _ operator operand => (∀ step, operator ≠ .stepBy step) ∧ operand.Quiet
  | stepAfter _ _ _ => False
  | binary _ _ left right => left.Quiet ∧ right.Quiet
  | ternary _ condition truthy falsy => condition.Quiet ∧ truthy.Quiet ∧ falsy.Quiet
  | wrapper _ inner => inner.Quiet

/-! ### Steps that only read -/

/-- All lists and maps are as they were, and nothing was called. There may be new functions. -/
structure Machine.Unchanged (former latter : Machine) : Prop where
  lists : latter.heap.lists = former.heap.lists
  maps : latter.heap.maps = former.heap.maps
  calls : latter.calls = former.calls

theorem Machine.Unchanged.refl (machine : Machine) : machine.Unchanged machine := ⟨rfl, rfl, rfl⟩

theorem Machine.Unchanged.trans {former middle latter : Machine} (first : former.Unchanged middle)
    (second : middle.Unchanged latter) : former.Unchanged latter :=
  ⟨second.lists.trans first.lists, second.maps.trans first.maps, second.calls.trans first.calls⟩

/-- The step leaves all lists and maps as they are, whether it succeeds or fails. -/
def Eval.OnlyReads {α : Type} (step : Eval α) : Prop :=
  ∀ machine : Machine, machine.Unchanged (step.runOn machine).2

namespace Eval.OnlyReads

variable {α β : Type}

theorem pure (value : α) : OnlyReads (pure value : Eval α) := fun machine => .refl machine

theorem throw (fault : EvalError) : OnlyReads (throw fault : Eval α) := fun machine => .refl machine

theorem bind {first : Eval α} {next : α → Eval β} (former : first.OnlyReads)
    (latter : ∀ value, (next value).OnlyReads) : (first >>= next).OnlyReads := by
  intro machine
  have unchanged := former machine
  rw [Eval.runOn_bind]
  split
  · rename_i value there ran
    rw [ran] at unchanged
    exact unchanged.trans (latter value there)
  · rename_i fault there ran
    rwa [ran] at unchanged

theorem map {first : Eval α} {change : α → β} (former : first.OnlyReads) :
    (change <$> first).OnlyReads := by
  rw [map_eq_pure_bind]
  exact former.bind fun value => .pure _

theorem heap_bind {next : Heap → Eval β} (latter : ∀ heap, (next heap).OnlyReads) :
    (Eval.heap >>= next).OnlyReads :=
  bind (fun machine => .refl machine) latter

end Eval.OnlyReads

open Eval

namespace Value

/-- A method is a new function, which no list or map holds. -/
theorem newMethod_onlyReads (name : String) (code : Option FunctionCode) :
    (newMethod name code).OnlyReads := by
  cases code with
  | some code => exact fun machine => ⟨rfl, rfl, rfl⟩
  | none => exact .pure _

theorem getProperty_onlyReads (value : Value) (name : String) :
    (value.getProperty name).OnlyReads := by
  refine .heap_bind fun heap => ?_
  cases value with
  | undefined => exact .throw _
  | null => exact .throw _
  | list ref =>
      dsimp only
      split
      · exact .pure _
      · split
        · exact .pure _
        · exact newMethod_onlyReads name _
  | string text =>
      dsimp only
      split
      · exact .pure _
      · split
        · exact .pure _
        · exact newMethod_onlyReads name _
  | _ => exact .pure _

theorem getIndex_onlyReads (value key : Value) : (value.getIndex key).OnlyReads :=
  .heap_bind fun _ => getProperty_onlyReads value _

end Value

theorem Context.read_onlyReads (context : Context) (name : String) :
    (context.read name).OnlyReads := by
  intro machine
  rw [context.read_still name machine]
  exact .refl machine

namespace Meaning

/-- As a value and as an argument list, the expression only reads. -/
structure OnlyReads (meaning : Meaning) : Prop where
  value : meaning.value.OnlyReads
  arguments : meaning.arguments.OnlyReads

variable {meaning left right : Meaning}

theorem onlyReads_ofValue {value : Eval Value} (reads : value.OnlyReads) :
    (ofValue value).OnlyReads :=
  ⟨reads, reads.bind fun _ => .pure _⟩

theorem onlyReads_ofPlace {value : Eval Value} {assign : Value → Eval Unit}
    (reads : value.OnlyReads) : (ofPlace value assign).OnlyReads :=
  ⟨reads, (onlyReads_ofValue reads).arguments⟩

theorem onlyReads_ofProperty {κ : Type} {place : Eval (Value × κ)} {read : Value → κ → Eval Value}
    {write : Value → κ → Value → Eval Unit} (places : place.OnlyReads)
    (reads : ∀ object key, (read object key).OnlyReads) :
    (ofProperty place read write).OnlyReads := by
  have value : (ofProperty place read write).value.OnlyReads :=
    (places.bind fun found => (reads found.1 found.2).bind fun _ => .pure _).map
  exact ⟨value, (onlyReads_ofValue value).arguments⟩

theorem unary_onlyReads (reads : meaning.value.OnlyReads) {operator : UnaryOperator}
    (noStep : ∀ step, operator ≠ .stepBy step) : (unary operator meaning).OnlyReads := by
  cases operator with
  | stepBy step => exact absurd rfl (noStep step)
  | _ => exact reads.bind fun _ => .heap_bind fun _ => .pure _

theorem binary_onlyReads (former : left.value.OnlyReads) (latter : right.value.OnlyReads)
    (operator : BinaryOperator) : (binary operator left right).OnlyReads := by
  refine former.bind fun first => ?_
  cases operator with
  | and =>
      dsimp only
      split
      · exact latter
      · exact .pure _
  | or =>
      dsimp only
      split
      · exact .pure _
      · exact latter
  | comma => exact latter
  | _ => exact latter.bind fun _ => .heap_bind fun _ => .pure _

theorem sequence_onlyReads (former : left.OnlyReads) (latter : right.OnlyReads) :
    (sequence left right).OnlyReads :=
  former.arguments.bind fun _ => latter.value.bind fun _ => .pure _

end Meaning

namespace Expr

variable {expr : Expr}

/-- An expression without calls and steps only reads. -/
theorem Quiet.meaning_onlyReads (quiet : expr.Quiet) (host : Host) (context : Context) :
    (expr.meaning host context).OnlyReads := by
  induction expr with
  | symbol _ name => exact Meaning.onlyReads_ofPlace (context.read_onlyReads name)
  | literal _ constant =>
      cases constant with
      | number value => exact Meaning.onlyReads_ofValue (.pure _)
      | string text => exact Meaning.onlyReads_ofValue (.pure _)
  | member _ object property ih =>
      exact Meaning.onlyReads_ofProperty ((ih quiet).value.bind fun _ => .pure _)
        Value.getProperty_onlyReads
  | index _ object key ihObject ihKey =>
      obtain ⟨quietObject, quietKey⟩ := quiet
      exact Meaning.onlyReads_ofProperty
        ((ihObject quietObject).value.bind fun _ => (ihKey quietKey).value.bind fun _ => .pure _)
        Value.getIndex_onlyReads
  | call => exact quiet.elim
  | callEmpty => exact quiet.elim
  | unary _ operator operand ih =>
      obtain ⟨noStep, quiet⟩ := quiet
      exact Meaning.onlyReads_ofValue (Meaning.unary_onlyReads (ih quiet).value noStep)
  | stepAfter => exact quiet.elim
  | binary _ operator left right ihLeft ihRight =>
      obtain ⟨quietLeft, quietRight⟩ := quiet
      have former := ihLeft quietLeft
      have latter := ihRight quietRight
      have reads := Meaning.onlyReads_ofValue
        (Meaning.binary_onlyReads former.value latter.value operator)
      cases operator with
      | comma => exact ⟨reads.value, Meaning.sequence_onlyReads former latter⟩
      | _ => exact reads
  | ternary _ condition truthy falsy ihCondition ihTruthy ihFalsy =>
      obtain ⟨quietCondition, quietTruthy, quietFalsy⟩ := quiet
      refine Meaning.onlyReads_ofValue ((ihCondition quietCondition).value.bind fun decided => ?_)
      split
      · exact (ihTruthy quietTruthy).value
      · exact (ihFalsy quietFalsy).value
  | wrapper _ inner ih =>
      have reads := (ih quiet).value
      exact ⟨reads, (Meaning.onlyReads_ofValue reads).arguments⟩

/-- Where a value would be assigned through such an expression is found by reading. -/
theorem Quiet.locate_onlyReads (quiet : expr.Quiet) (host : Host) (context : Context) :
    (expr.locate host context).OnlyReads := by
  induction expr with
  | symbol _ name => exact .pure _
  | member _ object property _ =>
      have object : object.Quiet := quiet
      exact (object.meaning_onlyReads host context).value.bind fun _ => .pure _
  | index _ object key _ _ =>
      exact (quiet.1.meaning_onlyReads host context).value.bind fun _ =>
        (quiet.2.meaning_onlyReads host context).value.bind fun _ => .heap_bind fun _ => .pure _
  | wrapper _ inner ih => exact ih quiet
  | _ => exact .throw _

/-- An expression without calls means the same with any host. -/
theorem Quiet.meaning_eq (quiet : expr.Quiet) (host other : Host) (context : Context) :
    expr.meaning host context = expr.meaning other context := by
  induction expr with
  | symbol => rfl
  | literal _ constant => cases constant <;> rfl
  | member _ object property ih => simp only [meaning, ih quiet]
  | index _ object key ihObject ihKey => simp only [meaning, ihObject quiet.1, ihKey quiet.2]
  | call => exact quiet.elim
  | callEmpty => exact quiet.elim
  | unary _ operator operand ih => simp only [meaning, ih quiet.2]
  | stepAfter => exact quiet.elim
  | binary _ operator left right ihLeft ihRight =>
      simp only [meaning, ihLeft quiet.1, ihRight quiet.2]
  | ternary _ condition truthy falsy ihCondition ihTruthy ihFalsy =>
      simp only [meaning, ihCondition quiet.1, ihTruthy quiet.2.1, ihFalsy quiet.2.2]
  | wrapper _ inner ih => simp only [meaning, ih quiet]

theorem Quiet.locate_eq (quiet : expr.Quiet) (host other : Host) (context : Context) :
    expr.locate host context = expr.locate other context := by
  induction expr with
  | member _ object property _ =>
      have object : object.Quiet := quiet
      simp only [locate, evaluate, object.meaning_eq host other context]
  | index _ object key _ _ =>
      simp only [locate, evaluate, quiet.1.meaning_eq host other context,
        quiet.2.meaning_eq host other context]
  | wrapper _ inner ih => exact ih quiet
  | _ => rfl

/-- A location that such an expression is resolved to is inside an object with a good handle. -/
theorem Quiet.located_within (quiet : expr.Quiet) (closed : machine.heap.Closed)
    {location : Location}
    (located : (expr.locate host context).runOn machine = (.ok location, there)) :
    location.Within there.heap := by
  rw [quiet.locate_eq host silentHost] at located
  have within := (expr.locate_owns silentHost_safe closed context).result location
  rw [located] at within
  exact within rfl

end Expr

/-! ### Writing to a location -/

/-- The slot that a write at the location changes: a binding of the name in a frame, a key of a map
or an index of a list. -/
inductive Location.Covers (context : Context) : Location → Slot → Prop where
  | binding {name : String} {frame : MapRef} (member : frame ∈ context.frames) :
      Covers context (.named name) (.entry frame name)
  | entry {ref : MapRef} {key : String} : Covers context (.property (.map ref) key) (.entry ref key)
  | item {ref : ListRef} {index : Nat} :
      Covers context (.property (.list ref) (Nat.repr index)) (.item ref index)

/-- The latter machine is the former one after a write at the location. -/
structure Location.Wrote (context : Context) (location : Location) (value : Value)
    (former latter : Machine) (slot : Slot) : Prop where
  covers : location.Covers context slot
  puts : former.heap.Puts slot value latter.heap
  calls : latter.calls = former.calls

namespace Location

/-- A write at a location that fails changes nothing. -/
theorem write_fails {location : Location} {fault : EvalError}
    (failed : (location.write context value).runOn machine = (.error fault, there)) :
    there = machine := by
  cases location with
  | named name =>
      rw [write, Context.runOn_assign] at failed
      split at failed
      · cases failed
        rfl
      · split at failed
        · cases failed
        · cases failed
          rfl
  | property object name =>
      rw [write, Value.setProperty, Eval.runOn_heap_bind] at failed
      cases object with
      | map ref => cases failed
      | list ref =>
          dsimp only at failed
          split at failed
          · split at failed <;> cases failed
            rfl
          · cases failed
            rfl
      | _ =>
          cases failed
          rfl

/-- A write at a location that succeeds changes one slot. -/
theorem write_puts (made : context.WellMade) (within : context.Within machine.heap)
    {location : Location} (owned : location.Within machine.heap)
    (written : (location.write context value).runOn machine = (.ok (), there)) :
    ∃ slot, location.Wrote context value machine there slot := by
  cases location with
  | named name =>
      obtain ⟨frame, target, rfl⟩ := Context.target_of_assign written
      have member := Context.mem_of_target? made target
      exact ⟨_, .binding member, Heap.puts_insert (within.1 frame member) name value, rfl⟩
  | property object name =>
      rw [write, Value.setProperty, Eval.runOn_heap_bind] at written
      cases object with
      | map ref =>
          cases written
          exact ⟨_, .entry, Heap.puts_insert owned name value, rfl⟩
      | list ref =>
          dsimp only at written
          split at written
          · rename_i index numbered
            obtain ⟨rfl, _⟩ := index?_toList_eq_some_iff.1 numbered
            split at written
            · rename_i latter put
              cases written
              exact ⟨_, .item, Heap.puts_of_putItem? owned put, rfl⟩
            · cases written
          · cases written
      | _ => cases written

end Location

/-- What is unchanged before a write does not show in what the write does. -/
theorem Machine.Unchanged.puts {former latter : Machine} (unchanged : former.Unchanged latter)
    {slot : Slot} {heap : Heap} (puts : latter.heap.Puts slot value heap) :
    former.heap.Puts slot value heap := by
  have same (other : Slot) : latter.heap.valueAt? other = former.heap.valueAt? other := by
    cases other with
    | entry ref key => simp only [Heap.valueAt?, Heap.get?, Heap.entries, unchanged.maps]
    | item ref index => simp only [Heap.valueAt?, Heap.items, unchanged.lists]
  constructor
  case here => exact puts.here
  case before =>
    intro other before
    rw [← same]
    exact puts.before other before
  case elsewhere =>
    intro other different notBefore
    rw [← same]
    exact puts.elsewhere other different notBefore
  case lists => rw [puts.lists, unchanged.lists]
  case maps => rw [puts.maps, unchanged.maps]

namespace Expr

/-- An assignment through the expression fails and changes nothing, or it changes one slot, which is
where the expression is located. -/
structure AssignsOnce (expr : Expr) (host : Host) (context : Context) (machine : Machine)
    (value : Value) : Prop where
  fails : ∀ fault there, (expr.assign host context value).runOn machine = (.error fault, there) →
    machine.Unchanged there
  succeeds : ∀ there, (expr.assign host context value).runOn machine = (.ok (), there) →
    ∃ location located slot, (expr.locate host context).runOn machine = (.ok location, located) ∧
      location.Wrote context value machine there slot

/-- An expression without calls and steps changes nothing as a value and as an argument list, and at
most one slot as the target of an assignment. -/
theorem quiet_effect {expr : Expr} (quiet : expr.Quiet) (host : Host) (context : Context) :
    (expr.evaluate host context).OnlyReads ∧ (expr.evaluateList host context).OnlyReads ∧
      ∀ machine value, machine.Ready context → context.WellMade →
        expr.AssignsOnce host context machine value := by
  have reads := quiet.meaning_onlyReads host context
  refine ⟨reads.value, reads.arguments, fun machine value ready made => ?_⟩
  have unchanged := quiet.locate_onlyReads host context machine
  constructor
  case fails =>
    intro fault there failed
    rw [assign_eq_locate, Eval.runOn_bind] at failed
    split at failed
    · rename_i location middle located
      rw [located] at unchanged
      cases Location.write_fails failed
      exact unchanged
    · rename_i fault middle located
      rw [located] at unchanged
      cases failed
      exact unchanged
  case succeeds =>
    intro there assigned
    rw [assign_eq_locate] at assigned
    obtain ⟨location, middle, located, written⟩ := Eval.runOn_bind_eq_ok_iff.1 assigned
    rw [located] at unchanged
    have owned := quiet.located_within ready.closed located
    have within : context.Within middle.heap :=
      ready.within.mono
        ⟨Nat.le_of_eq (congrArg Array.size unchanged.lists).symm,
          Nat.le_of_eq (congrArg Array.size unchanged.maps).symm⟩
    obtain ⟨slot, covers, puts, calls⟩ := Location.write_puts made within owned written
    exact ⟨location, middle, slot, located, covers, unchanged.puts puts,
      calls.trans unchanged.calls⟩

theorem quiet_effect_firstNumber :
    ∃ there, (firstNumber.assign silentHost shelfContext .null).runOn shelf = (.ok (), there) ∧
      ∃ location located slot,
        (firstNumber.locate silentHost shelfContext).runOn shelf = (.ok location, located) ∧
          location.Wrote shelfContext .null shelf there slot := by
  have quiet : firstNumber.Quiet := ⟨trivial, trivial⟩
  obtain ⟨_, _, assigns⟩ := quiet_effect quiet silentHost shelfContext
  exact ⟨_, rfl, (assigns shelf .null shelf_ready shelfContext_wellMade).succeeds _ rfl⟩

end Expr

end Parlance
