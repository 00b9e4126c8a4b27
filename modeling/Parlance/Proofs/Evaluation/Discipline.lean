import Parlance.Evaluation.Context
import Parlance.Proofs.Value.Slot

/-!
# Disciplines

A discipline says which heaps are sound, how a sound heap may change and which values are good. It
bears with every change that evaluation makes as long as only good values are written, so steps that
are composed of such changes keep to it. They do so if they fail as well.
-/

namespace Parlance

/-- A property of heaps that writing good values keeps. Values stay good, plain data and methods
always are, and so is what is read in a good list or map. -/
structure Discipline where
  Sound : Heap → Prop
  Later : Heap → Heap → Prop
  Good : Value → Heap → Prop
  refl : ∀ heap, Later heap heap
  trans : ∀ {former middle latter}, Later former middle → Later middle latter → Later former latter
  stays : ∀ {former latter value}, Later former latter → Good value former → Good value latter
  plain : ∀ heap value, value.isObject = false → Good value heap
  method : ∀ heap function, function.code ≠ .host → Good (.function function) heap
  item : ∀ {heap ref}, Sound heap → Good (.list ref) heap → ∀ value ∈ heap.items ref,
    Good value heap
  entry : ∀ {heap ref}, Sound heap → Good (.map ref) heap → ∀ name value,
    heap.get? ref name = some value → Good value heap
  setItems : ∀ {heap items}, Sound heap → (∀ value ∈ items, Good value heap) → ∀ ref,
    Sound (heap.setItems ref items) ∧ Later heap (heap.setItems ref items)
  insert : ∀ {heap ref value}, Sound heap → Good (.map ref) heap → Good value heap → ∀ name,
    Sound (heap.insert ref name value) ∧ Later heap (heap.insert ref name value)
  newList : ∀ {heap items}, Sound heap → (∀ value ∈ items, Good value heap) →
    Sound (heap.newList items).2 ∧ Later heap (heap.newList items).2 ∧
      Good (.list (heap.newList items).1) (heap.newList items).2
  newFunction : ∀ {heap}, Sound heap → ∀ name code, Sound (heap.newFunction name code).2 ∧
    Later heap (heap.newFunction name code).2

namespace Eval

variable {α β : Type}

theorem runOn_bind (first : Eval α) (next : α → Eval β) (machine : Machine) :
    (first >>= next).runOn machine =
      match first.runOn machine with
      | (.ok value, there) => (next value).runOn there
      | (.error fault, there) => (.error fault, there) := by
  unfold runOn ExceptT.run StateT.run
  simp only [bind, ExceptT.bind, ExceptT.mk, StateT.bind]
  cases first machine with
  | mk result there => cases result <;> rfl

/-- Two steps succeed together if the second one succeeds where the first one ends. -/
theorem runOn_bind_eq_ok_iff {first : Eval α} {next : α → Eval β} {machine there : Machine}
    {result : β} :
    (first >>= next).runOn machine = (.ok result, there) ↔
      ∃ value middle, first.runOn machine = (.ok value, middle) ∧
        (next value).runOn middle = (.ok result, there) := by
  rw [runOn_bind]
  obtain ⟨fault | value, middle⟩ := first.runOn machine
  · simp
  · constructor
    · intro done
      exact ⟨value, middle, rfl, done⟩
    · rintro ⟨_, _, ⟨⟩, done⟩
      exact done

@[simp] theorem runOn_pure (value : α) (machine : Machine) :
    (pure value : Eval α).runOn machine = (.ok value, machine) := rfl

@[simp] theorem runOn_throw (fault : EvalError) (machine : Machine) :
    (throw fault : Eval α).runOn machine = (.error fault, machine) := rfl

@[simp] theorem runOn_heap (machine : Machine) :
    Eval.heap.runOn machine = (.ok machine.heap, machine) := rfl

@[simp] theorem runOn_setHeap (heap : Heap) (machine : Machine) :
    (Eval.setHeap heap).runOn machine = (.ok (), { machine with heap }) := rfl

@[simp] theorem runOn_onHeap (change : Heap → α × Heap) (machine : Machine) :
    (Eval.onHeap change).runOn machine =
      (.ok (change machine.heap).1, { machine with heap := (change machine.heap).2 }) := rfl

@[simp] theorem runOn_heap_bind (next : Heap → Eval β) (machine : Machine) :
    (Eval.heap >>= next).runOn machine = (next machine.heap).runOn machine := rfl

/-- On this machine the step keeps to the discipline: it leaves a sound heap that the one before may
change into, and if it succeeds, its result is one of these on that heap. -/
structure Keeps (discipline : Discipline) (step : Eval α) (machine : Machine)
    (holds : α → Heap → Prop) : Prop where
  sound : discipline.Sound (step.runOn machine).2.heap
  later : discipline.Later machine.heap (step.runOn machine).2.heap
  result : ∀ value, (step.runOn machine).1 = .ok value → holds value (step.runOn machine).2.heap

namespace Keeps

variable {discipline : Discipline} {machine : Machine} {holds : α → Heap → Prop}
  {after : β → Heap → Prop}

theorem pure (sound : discipline.Sound machine.heap) {value : α} (here : holds value machine.heap) :
    Keeps discipline (pure value) machine holds := by
  refine ⟨sound, discipline.refl _, ?_⟩
  rintro _ ⟨⟩
  exact here

theorem throw (sound : discipline.Sound machine.heap) {fault : EvalError} :
    Keeps discipline (throw fault) machine holds := by
  refine ⟨sound, discipline.refl _, ?_⟩
  rintro _ ⟨⟩

theorem bind {first : Eval α} {next : α → Eval β} (holds : α → Heap → Prop)
    (former : Keeps discipline first machine holds)
    (latter : ∀ value there, discipline.Sound there.heap →
      discipline.Later machine.heap there.heap → holds value there.heap →
      Keeps discipline (next value) there after) :
    Keeps discipline (first >>= next) machine after := by
  obtain ⟨sound, grown, holds⟩ := former
  have run := runOn_bind first next machine
  cases outcome : first.runOn machine with
  | mk result there =>
      rw [outcome] at sound grown holds run
      cases result with
      | ok value =>
          obtain ⟨sound, further, result⟩ := latter value there sound grown (holds value rfl)
          refine ⟨?_, ?_, ?_⟩ <;> rw [run]
          · exact sound
          · exact discipline.trans grown further
          · exact result
      | error fault =>
          refine ⟨?_, ?_, ?_⟩ <;> rw [run]
          · exact sound
          · exact grown
          · rintro _ ⟨⟩

theorem map {step : Eval α} {change : α → β} (former : Keeps discipline step machine holds)
    (changes : ∀ value heap, holds value heap → after (change value) heap) :
    Keeps discipline (change <$> step) machine after := by
  rw [map_eq_pure_bind]
  refine bind holds former ?_
  intro value there sound _ here
  exact pure sound (changes value there.heap here)

/-- Looking at the heap changes nothing. -/
theorem heap_bind {next : Heap → Eval β}
    (latter : Keeps discipline (next machine.heap) machine after) :
    Keeps discipline (Eval.heap >>= next) machine after :=
  ⟨latter.sound, latter.later, latter.result⟩

/-- A change of the heap that the discipline bears with. -/
theorem setHeap {heap : Heap}
    (change : discipline.Sound heap ∧ discipline.Later machine.heap heap) :
    Keeps discipline (Eval.setHeap heap) machine fun _ _ => True :=
  ⟨change.1, change.2, fun _ _ => trivial⟩

theorem onHeap {change : Heap → α × Heap} (sound : discipline.Sound (change machine.heap).2)
    (later : discipline.Later machine.heap (change machine.heap).2)
    (here : holds (change machine.heap).1 (change machine.heap).2) :
    Keeps discipline (Eval.onHeap change) machine holds := by
  refine ⟨sound, later, ?_⟩
  rintro _ ⟨⟩
  exact here

end Keeps

end Eval

namespace Discipline

variable (discipline : Discipline)

/-- Both values are good. -/
def GoodBoth (pair : Value × Value) (heap : Heap) : Prop :=
  discipline.Good pair.1 heap ∧ discipline.Good pair.2 heap

/-- All values are good. -/
def GoodAll (values : List Value) (heap : Heap) : Prop :=
  ∀ value ∈ values, discipline.Good value heap

/-- The host keeps to the discipline if it is handed good values. -/
def Trusts (host : Host) : Prop :=
  ∀ (function : Function) receiver arguments heap, function.code = .host → discipline.Sound heap →
    discipline.Good (.function function) heap → discipline.Good receiver heap →
    discipline.GoodAll arguments heap →
    discipline.Sound (host function receiver arguments heap).2 ∧
      discipline.Later heap (host function receiver arguments heap).2 ∧
      ∀ value, (host function receiver arguments heap).1 = .ok value →
        discipline.Good value (host function receiver arguments heap).2

/-- On the heap, and whatever it may change into, names have good values in the context, and good
values may be assigned to them. -/
structure Admits (context : Context) (heap : Heap) : Prop where
  reads : ∀ latter, discipline.Sound latter → discipline.Later heap latter →
    ∀ frame ∈ context.frames, ∀ name value, latter.get? frame name = some value →
      discipline.Good value latter
  writes : ∀ latter, discipline.Sound latter → discipline.Later heap latter →
    ∀ name frame, context.target? latter name = some frame → ∀ value,
      discipline.Good value latter → discipline.Sound (latter.insert frame name value) ∧
        discipline.Later latter (latter.insert frame name value)

/-- The machine has a sound heap that admits the context. -/
structure Ready (context : Context) (machine : Machine) : Prop where
  sound : discipline.Sound machine.heap
  admits : discipline.Admits context machine.heap

variable {discipline}

theorem Ready.later {context : Context} {machine there : Machine}
    (ready : discipline.Ready context machine) (sound : discipline.Sound there.heap)
    (grown : discipline.Later machine.heap there.heap) : discipline.Ready context there where
  sound := sound
  admits :=
    { reads := fun latter sound later =>
        ready.admits.reads latter sound (discipline.trans grown later)
      writes := fun latter sound later =>
        ready.admits.writes latter sound (discipline.trans grown later) }

section

variable {heap : Heap} (sound : discipline.Sound heap)
include sound

theorem getElem? {ref : ListRef} (good : discipline.Good (.list ref) heap) (index : Nat) :
    discipline.Good ((heap.items ref)[index]?.getD .undefined) heap := by
  cases found : (heap.items ref)[index]? with
  | none => exact discipline.plain heap _ rfl
  | some item => exact discipline.item sound good item (List.mem_of_getElem? found)

theorem getD_get? {ref : MapRef} (good : discipline.Good (.map ref) heap) (name : String) :
    discipline.Good ((heap.get? ref name).getD .undefined) heap := by
  cases found : heap.get? ref name with
  | none => exact discipline.plain heap _ rfl
  | some value => exact discipline.entry sound good name value found

theorem putItem? {ref : ListRef} (owner : discipline.Good (.list ref) heap) {value : Value}
    (good : discipline.Good value heap) {index : Nat} {latter : Heap}
    (put : heap.putItem? ref index value = some latter) :
    discipline.Sound latter ∧ discipline.Later heap latter := by
  cases Heap.eq_of_putItem? put
  refine discipline.setItems sound ?_ ref
  intro item member
  rcases List.mem_or_eq_of_mem_set member with member | rfl
  · rcases List.mem_append.1 member with member | member
    · exact discipline.item sound owner item member
    · rw [List.eq_of_mem_replicate member]
      exact discipline.plain heap _ rfl
  · exact good

end

end Discipline

end Parlance
