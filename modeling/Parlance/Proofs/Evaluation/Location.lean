import Parlance.Proofs.Evaluation.Property

/-!
# Locations

A symbol, a property or an indexed item stands for a location: a name in the context, or a name in
an object. Reading such an expression resolves its location and reads there; assigning through it
resolves the location once more and writes there. A step of a number does both, one after the other.
-/

namespace Parlance

/-- Where a value can be kept. -/
inductive Location where
  | named (name : String)
  | property (object : Value) (name : String)

namespace Location

/-- Reads at the location. -/
def read (context : Context) : Location → Eval Value
  | named name => context.read name
  | property object name => object.getProperty name

/-- Writes at the location. -/
def write (context : Context) (location : Location) (value : Value) : Eval Unit :=
  match location with
  | named name => context.assign name value
  | property object name => object.setProperty name value

/-- The location is inside an object with a good handle, if it is inside one. -/
def Within (location : Location) (heap : Heap) : Prop :=
  match location with
  | named _ => True
  | property object _ => heap.Has object

end Location

/-- Resolves the location that the expression stands for, if it stands for one. -/
def Expr.locate (host : Host) (context : Context) : Expr → Eval Location
  | symbol _ name => return .named name
  | member _ object property => return .property (← object.evaluate host context) property
  | index _ object key => do
      let object ← object.evaluate host context
      let key ← key.evaluate host context
      return .property object (key.render (← Eval.heap))
  | wrapper _ inner => inner.locate host context
  | _ => throw .readOnly

variable {host : Host} {context : Context} {machine there : Machine} {value : Value}
  {operand : Expr}

namespace Expr

/-- The value of a symbol, a property or an item is read where it is located. -/
theorem evaluate_eq_locate (assignable : operand.isAssignable = true) :
    operand.evaluate host context = operand.locate host context >>= Location.read context := by
  induction operand with
  | symbol _ name => rfl
  | member _ object property _ =>
      simp only [evaluate, meaning, Meaning.ofProperty, Meaning.ofPlace, Meaning.ofValue, locate,
        map_eq_pure_bind, bind_assoc, pure_bind, bind_pure, Location.read]
  | index _ object key _ _ =>
      simp only [evaluate, meaning, Meaning.ofProperty, Meaning.ofPlace, Meaning.ofValue, locate,
        map_eq_pure_bind, bind_assoc, pure_bind, bind_pure, Location.read, Value.getIndex]
  | wrapper _ inner ih => exact ih assignable
  | _ => cases assignable

/-- A value is assigned through an expression where it is located, if it is anywhere. -/
theorem assign_eq_locate (operand : Expr) (value : Value) :
    operand.assign host context value =
      operand.locate host context >>= fun location => location.write context value := by
  induction operand with
  | symbol _ name => rfl
  | literal _ constant => cases constant <;> rfl
  | member _ object property _ =>
      simp only [assign, evaluate, meaning, Meaning.ofProperty, Meaning.ofPlace, locate,
        bind_assoc, pure_bind, Location.write]
  | index _ object key _ _ =>
      simp only [assign, evaluate, meaning, Meaning.ofProperty, Meaning.ofPlace, locate,
        bind_assoc, pure_bind, Location.write, Value.setIndex]
  | binary _ operator _ _ _ _ => cases operator <;> rfl
  | wrapper _ inner ih => exact ih
  | _ => rfl

end Expr

/-- Resolving a location keeps heaps closed, and the location is in an object with a good handle. -/
theorem Expr.locate_owns (safe : host.Safe) (closed : machine.heap.Closed) (context : Context)
    (operand : Expr) :
    (operand.locate host context).Keeps Heap.ownership machine Location.Within := by
  induction operand with
  | symbol _ name => exact Eval.Keeps.pure closed trivial
  | member _ object property _ =>
      refine Eval.Keeps.bind _ (object.evaluate_owns safe closed context) ?_
      intro value there closed _ good
      exact Eval.Keeps.pure closed good
  | index _ object key _ _ =>
      refine Eval.Keeps.bind _ (object.evaluate_owns safe closed context) ?_
      intro value there closed _ good
      refine Eval.Keeps.bind _ (key.evaluate_owns safe closed context) ?_
      intro name there closed grown _
      exact Eval.Keeps.heap_bind (Eval.Keeps.pure closed (good.mono grown))
  | wrapper _ inner ih => exact ih
  | _ => exact Eval.Keeps.throw closed

namespace Context

/-- An assignment that succeeds writes to the map that it is meant for. -/
theorem target_of_assign {name : String}
    (assigned : (context.assign name value).runOn machine = (.ok (), there)) :
    ∃ frame, context.target? machine.heap name = some frame ∧
      there = { machine with heap := machine.heap.insert frame name value } := by
  rw [assign, Eval.runOn_heap_bind] at assigned
  extract_lets write at assigned
  have written : (write ()).runOn machine = (.ok (), there) := by
    split at assigned
    · cases assigned
    · exact assigned
  simp only [write] at written
  split at written
  · rename_i frame target
    cases written
    exact ⟨frame, target, rfl⟩
  · cases written

/-- The map that an assignment writes to is one of the context. -/
theorem mem_of_target? {heap : Heap} {name : String} {frame : MapRef} (made : context.WellMade)
    (target : context.target? heap name = some frame) : frame ∈ context.frames := by
  unfold target? at target
  split at target
  · rename_i temporary _ own
    cases target
    exact List.mem_of_head? (made frame own)
  · rename_i holder _ held
    cases target
    exact List.mem_of_find?_eq_some held
  · exact List.mem_of_getLast? target

/-- The map that an assignment writes to is the first one that has the name afterwards. -/
theorem holder?_insert (made : context.WellMade) {heap : Heap} {name : String} {frame : MapRef}
    (given : frame.index < heap.maps.size) (target : context.target? heap name = some frame)
    (value : Value) : context.holder? (heap.insert frame name value) name = some frame := by
  have has (other : MapRef) : ((heap.insert frame name value).entries other).contains name =
      (decide (frame = other) || (heap.entries other).contains name) := by
    have found := Heap.get?_insert given other name name value
    rw [Heap.get?, Heap.get?] at found
    rw [Dictionary.contains, found]
    by_cases same : frame = other <;> simp [same, Dictionary.contains]
  have member := mem_of_target? made target
  unfold target? at target
  simp only [holder?, has]
  split at target
  · rename_i temporary _ own
    cases target
    obtain ⟨rest, frames⟩ := List.head?_eq_some_iff.1 (made frame own)
    simp [frames]
  · rename_i holder _ held
    cases target
    rw [← held, holder?]
    congr 1
    funext other
    by_cases same : frame = other
    · subst same
      simpa using (List.find?_some held).symm
    · simp [same]
  · rename_i _ unheld
    have nowhere := List.find?_eq_none.1 unheld
    have some : (context.frames.find? fun other =>
        decide (frame = other) || (heap.entries other).contains name).isSome :=
      List.find?_isSome.2 ⟨frame, member, by simp⟩
    obtain ⟨found, first⟩ := Option.isSome_iff_exists.1 some
    have chosen := List.find?_some first
    have absent := nowhere found (List.mem_of_find?_eq_some first)
    simp only [absent, Bool.or_false, decide_eq_true_eq] at chosen
    rw [first, chosen]

/-- After an assignment to a name the name has the value. -/
theorem read_assign (made : context.WellMade) (within : context.Within machine.heap) {name : String}
    (assigned : (context.assign name value).runOn machine = (.ok (), there)) :
    (context.read name).runOn there = (.ok value, there) := by
  obtain ⟨frame, target, rfl⟩ := target_of_assign assigned
  have given := within.1 frame (mem_of_target? made target)
  rw [read, Eval.runOn_heap_bind]
  simp [lookup?, holder?_insert made given target, Heap.get?_insert given]

/-- Reading a name changes nothing. -/
theorem read_still (context : Context) (name : String) (machine : Machine) :
    ((context.read name).runOn machine).2 = machine := by
  rw [read, Eval.runOn_heap_bind]
  split
  · rfl
  · split <;> rfl

end Context

namespace Location

/-- What was written at a location is read there afterwards. -/
theorem read_write (made : context.WellMade) (within : context.Within machine.heap)
    {location : Location} (owned : location.Within machine.heap)
    (written : (location.write context value).runOn machine = (.ok (), there)) :
    (location.read context).runOn there = (.ok value, there) := by
  cases location with
  | named name => exact Context.read_assign made within written
  | property object name =>
      have writes := Value.setProperty_writes owned name value
      rw [write] at written
      rw [written] at writes
      exact (writes.written rfl).readBack

/-- Reading where a value can be written changes nothing. -/
theorem read_still {location : Location} {newValue : Value} {readThere : Machine}
    (written : (location.write context newValue).runOn machine = (.ok (), there))
    (seen : (location.read context).runOn machine = (.ok value, readThere)) :
    readThere = machine := by
  cases location with
  | named name =>
      have same := context.read_still name machine
      rw [read] at seen
      rw [seen] at same
      exact same
  | property object name =>
      rw [write, Value.setProperty, Eval.runOn_heap_bind] at written
      rw [read, Value.getProperty, Eval.runOn_heap_bind] at seen
      cases object with
      | map ref =>
          cases seen
          rfl
      | list ref =>
          dsimp only at written seen
          split at written
          · rename_i index numbered
            split at seen
            · cases seen
              rfl
            · simp only [numbered] at seen
              cases seen
              rfl
          · cases written
      | _ => cases written

end Location

namespace Expr

variable {step : Step} {before : Float}

/-- One step of the number that the operand stands for, as evaluation makes it: the location of the
operand is resolved for the read and resolved once more for the write. The number after the step is
found at the second location when all is done. -/
def StepsTwice (host : Host) (context : Context) (operand : Expr) (step : Step) (machine : Machine)
    (before : Float) (there : Machine) : Prop :=
  ∃ source target value located seen resolved,
    (operand.locate host context).runOn machine = (.ok source, located) ∧
      (source.read context).runOn located = (.ok value, seen) ∧ value.toNumber seen.heap = before ∧
      (operand.locate host context).runOn seen = (.ok target, resolved) ∧
      (target.write context (.number (step.apply before))).runOn resolved = (.ok (), there) ∧
      (target.read context).runOn there = (.ok (.number (step.apply before)), there)

/-- One step of the number at one location, which is resolved once. Resolving it and reading there
leave the machine as it is, and the number after the step is found there when all is done. -/
def StepsOnce (host : Host) (context : Context) (operand : Expr) (step : Step) (machine : Machine)
    (before : Float) (there : Machine) : Prop :=
  ∃ location value,
    (operand.locate host context).runOn machine = (.ok location, machine) ∧
      (location.read context).runOn machine = (.ok value, machine) ∧
      value.toNumber machine.heap = before ∧
      (location.write context (.number (step.apply before))).runOn machine = (.ok (), there) ∧
      (location.read context).runOn there = (.ok (.number (step.apply before)), there)

section

variable (safe : host.Safe) (ready : machine.Ready context) (made : context.WellMade)
  (assignable : operand.isAssignable = true)
include safe ready made assignable

/-- A step of the operand's number, taken apart. -/
theorem step_eq_ok_iff {result : Value × Value} :
    ((operand.meaning host context).step step).runOn machine = (.ok result, there) ↔
      ∃ before, result = (.number before, .number (step.apply before)) ∧
        operand.StepsTwice host context step machine before there := by
  have unfolded : (operand.meaning host context).step step = (operand.evaluate host context >>=
      fun value => Eval.heap >>= fun heap =>
        operand.assign host context (.number (step.apply (value.toNumber heap))) >>= fun _ =>
          pure (.number (value.toNumber heap), .number (step.apply (value.toNumber heap)))) := rfl
  rw [unfolded]
  simp only [assign_eq_locate]
  constructor
  · intro done
    obtain ⟨value, seen, evaluated, done⟩ := Eval.runOn_bind_eq_ok_iff.1 done
    rw [Eval.runOn_heap_bind] at done
    obtain ⟨_, written, assigned, done⟩ := Eval.runOn_bind_eq_ok_iff.1 done
    obtain ⟨target, resolved, again, write⟩ := Eval.runOn_bind_eq_ok_iff.1 assigned
    cases done
    have owns := operand.evaluate_owns safe ready.closed context
    have readySeen : seen.Ready context := by
      have later := ready.later owns.sound owns.later
      rwa [evaluated] at later
    have ownsAgain := operand.locate_owns safe readySeen.closed context
    rw [evaluate_eq_locate assignable] at evaluated
    obtain ⟨source, located, first, read⟩ := Eval.runOn_bind_eq_ok_iff.1 evaluated
    have owned := ownsAgain.result target (by rw [again])
    have within := (readySeen.later ownsAgain.sound ownsAgain.later).within
    rw [again] at owned within
    exact ⟨_, rfl, source, target, value, located, seen, resolved, first, read, rfl, again, write,
      Location.read_write made within owned write⟩
  · rintro ⟨_, rfl, source, target, value, located, seen, resolved, first, read, rfl, again, write,
      _⟩
    refine Eval.runOn_bind_eq_ok_iff.2 ⟨value, seen, ?_, ?_⟩
    · rw [evaluate_eq_locate assignable]
      exact Eval.runOn_bind_eq_ok_iff.2 ⟨source, located, first, read⟩
    · rw [Eval.runOn_heap_bind]
      refine Eval.runOn_bind_eq_ok_iff.2 ⟨(), there, ?_, rfl⟩
      exact Eval.runOn_bind_eq_ok_iff.2 ⟨target, resolved, again, write⟩

omit safe ready made in
/-- If evaluating the operand changes nothing, it does not matter that its location is resolved
twice. -/
theorem stepsTwice_iff_stepsOnce
    (still : ((operand.evaluate host context).runOn machine).2 = machine) :
    operand.StepsTwice host context step machine before there ↔
      operand.StepsOnce host context step machine before there := by
  constructor
  · rintro ⟨source, target, value, located, seen, resolved, first, read, rfl, again, write, found⟩
    have evaluated : (operand.evaluate host context).runOn machine = (.ok value, seen) := by
      rw [evaluate_eq_locate assignable]
      exact Eval.runOn_bind_eq_ok_iff.2 ⟨source, located, first, read⟩
    rw [evaluated] at still
    cases still
    rw [first] at again
    cases again
    -- Where a write succeeds, reading changes nothing, so resolving has changed nothing either.
    cases Location.read_still write read
    exact ⟨source, value, first, read, rfl, write, found⟩
  · rintro ⟨location, value, resolved, read, rfl, write, found⟩
    exact ⟨location, location, value, machine, machine, machine, resolved, read, rfl, resolved,
      write, found⟩

/-- An increment or a decrement, behind its operand or in front of it, reads the number at the
operand's location, resolves the location once more, and leaves the number after the step there. It
yields the number before the step if it stands behind, and the one after the step if it stands in
front. If evaluating the operand changes nothing, the location is as good as resolved once, and the
number after the step is found where the number before it was read. -/
theorem step_updates (step : Step) (origin : Origin) (result : Value) (there : Machine) :
    (((stepAfter origin step operand).evaluate host context).runOn machine = (.ok result, there) ↔
        ∃ before, result = .number before ∧
          operand.StepsTwice host context step machine before there) ∧
      (((unary origin (.stepBy step) operand).evaluate host context).runOn machine =
          (.ok result, there) ↔
        ∃ before, result = .number (step.apply before) ∧
          operand.StepsTwice host context step machine before there) ∧
      (((operand.evaluate host context).runOn machine).2 = machine → ∀ before,
        (operand.StepsTwice host context step machine before there ↔
          operand.StepsOnce host context step machine before there)) := by
  have projected {project : Value × Value → Value} :
      (project <$> (operand.meaning host context).step step).runOn machine = (.ok result, there) ↔
        ∃ before, result = project (.number before, .number (step.apply before)) ∧
          operand.StepsTwice host context step machine before there := by
    rw [map_eq_pure_bind, Eval.runOn_bind_eq_ok_iff]
    constructor
    · rintro ⟨both, _, done, ⟨⟩⟩
      obtain ⟨before, rfl, steps⟩ := (step_eq_ok_iff safe ready made assignable).1 done
      exact ⟨before, rfl, steps⟩
    · rintro ⟨before, rfl, steps⟩
      exact ⟨_, there, (step_eq_ok_iff safe ready made assignable).2 ⟨before, rfl, steps⟩, rfl⟩
  exact ⟨projected, projected, fun still _ => stepsTwice_iff_stepsOnce assignable still⟩

end

end Expr

section

/-- A host without functions. -/
def silentHost : Host := fun _ _ _ heap => (.error .notEvaluable, heap)

/-- A scope with a map of two numbers and a list of its keys, and a context of this scope alone. -/
def shelf : Machine :=
  .ofHeap ((((Heap.empty.newList [.string "a", .string "b"]).2.newMap
    (.ofList [("a", .number 10), ("b", .number 20)])).2).newMap
      (.ofList [("box", .map ⟨0⟩), ("keys", .list ⟨0⟩)])).2

def shelfContext : Context := ⟨[⟨1⟩], none, true⟩

theorem silentHost_safe : silentHost.Safe := by
  intro name receiver arguments heap closed _ _
  exact ⟨closed, .refl heap, by rintro _ ⟨⟩⟩

theorem shelf_ready : shelf.Ready shelfContext := by
  have keys : (Heap.empty.newList [.string "a", .string "b"]).2.Closed :=
    Heap.closed_empty.newList (by simp [Heap.Has])
  refine ⟨(keys.newMap ?_).newMap ?_, ?_, ?_⟩
  · intro name value found
    have member := Dictionary.mem_of_get?_ofList found
    simp only [List.mem_cons, Prod.mk.injEq, List.not_mem_nil, or_false] at member
    rcases member with ⟨_, rfl⟩ | ⟨_, rfl⟩ <;> trivial
  · intro name value found
    have member := Dictionary.mem_of_get?_ofList found
    simp only [List.mem_cons, Prod.mk.injEq, List.not_mem_nil, or_false] at member
    rcases member with ⟨_, rfl⟩ | ⟨_, rfl⟩
    · exact Nat.zero_lt_one
    · exact Nat.zero_lt_one
  · intro frame member
    rw [List.mem_singleton.1 member]
    decide
  · rintro _ ⟨⟩

theorem shelfContext_wellMade : shelfContext.WellMade := by
  rintro _ ⟨⟩

/-- The number under the first key, and the number under whatever key is taken off the list. -/
def firstNumber : Expr :=
  .index ⟨"index", 0, 12⟩ (.symbol ⟨"identifier", 0, 3⟩ "box")
    (.member ⟨"dot", 4, 6⟩ (.symbol ⟨"identifier", 4, 4⟩ "keys") "0")

def takenNumber : Expr :=
  .index ⟨"index", 0, 15⟩ (.symbol ⟨"identifier", 0, 3⟩ "box")
    (.callEmpty ⟨"call", 4, 10⟩
      (.member ⟨"dot", 4, 8⟩ (.symbol ⟨"identifier", 4, 4⟩ "keys") "pop"))

theorem step_updates_firstNumber :
    ∃ there, ((Expr.stepAfter ⟨"postfix", 0, 14⟩ .increment firstNumber).evaluate silentHost
        shelfContext).runOn shelf = (.ok (.number 10), there) ∧
      firstNumber.StepsOnce silentHost shelfContext .increment shelf 10 there := by
  obtain ⟨there, done⟩ : ∃ there, ((Expr.stepAfter ⟨"postfix", 0, 14⟩ .increment
      firstNumber).evaluate silentHost shelfContext).runOn shelf = (.ok (.number 10), there) :=
    ⟨_, rfl⟩
  have assignable : firstNumber.isAssignable = true := rfl
  have still : ((firstNumber.evaluate silentHost shelfContext).runOn shelf).2 = shelf := rfl
  obtain ⟨behind, _, once⟩ := Expr.step_updates silentHost_safe shelf_ready shelfContext_wellMade
    assignable .increment ⟨"postfix", 0, 14⟩ (.number 10) there
  obtain ⟨before, same, steps⟩ := behind.1 done
  cases same
  exact ⟨there, done, (once still 10).1 steps⟩

/-- The number after a step need not be found where the number before it was read. -/
theorem not_step_updates :
    ¬∀ (host : Host) (context : Context) (machine there : Machine) (operand : Expr) (step : Step)
      (origin : Origin) (result : Value), host.Safe → machine.Ready context → context.WellMade →
      operand.isAssignable = true →
      ((Expr.stepAfter origin step operand).evaluate host context).runOn machine =
        (.ok result, there) →
      ∃ location value located seen,
        (operand.locate host context).runOn machine = (.ok location, located) ∧
          (location.read context).runOn located = (.ok value, seen) ∧
          (location.read context).runOn there =
            (.ok (.number (step.apply (value.toNumber seen.heap))), there) := by
  intro claimed
  have differs : (20 : Float) ≠ 20 + 1 := by decide +kernel
  obtain ⟨location, value, located, seen, resolved, read, found⟩ :=
    claimed silentHost shelfContext shelf _ takenNumber .increment ⟨"postfix", 0, 17⟩
      (.number 20) silentHost_safe shelf_ready shelfContext_wellMade rfl rfl
  cases resolved
  cases read
  have same : (Except.ok (Value.number 20) : Except EvalError Value) = .ok (.number (20 + 1)) :=
    congrArg Prod.fst found
  injection same with same
  injection same with same
  exact differs same

end

end Parlance
