import Parlance.Proofs.Evaluation.Preservation
import Parlance.Proofs.Value.Heap

/-!
# Handles

A handle is good as long as the heap has given it out. Evaluation on a heap in which all handles are
good gives values with good handles and leaves such a heap, provided that the host does so. Handles
are never taken back, so those from before stay good.
-/

namespace Parlance

namespace Heap

/-- The heap has given out the handle, if the value is one. -/
def Has (heap : Heap) : Value → Prop
  | .list ref => ref.index < heap.lists.size
  | .map ref => ref.index < heap.maps.size
  | _ => True

/-- All handles in lists and maps have been given out. -/
structure Closed (heap : Heap) : Prop where
  items : ∀ ref, ∀ value ∈ heap.items ref, heap.Has value
  entries : ∀ ref name value, heap.get? ref name = some value → heap.Has value

/-- The latter heap has given out whatever the former one has. -/
structure Extends (former latter : Heap) : Prop where
  lists : former.lists.size ≤ latter.lists.size
  maps : former.maps.size ≤ latter.maps.size

variable {heap former middle latter : Heap} {value : Value}

theorem Extends.refl (heap : Heap) : heap.Extends heap := ⟨Nat.le_refl _, Nat.le_refl _⟩

theorem Extends.trans (first : former.Extends middle) (second : middle.Extends latter) :
    former.Extends latter :=
  ⟨Nat.le_trans first.lists second.lists, Nat.le_trans first.maps second.maps⟩

theorem Has.mono (has : former.Has value) (grown : former.Extends latter) : latter.Has value := by
  cases value with
  | list ref => exact Nat.lt_of_lt_of_le has grown.lists
  | map ref => exact Nat.lt_of_lt_of_le has grown.maps
  | _ => trivial

theorem extends_setItems (heap : Heap) (ref : ListRef) (items : List Value) :
    heap.Extends (heap.setItems ref items) :=
  ⟨by simp [setItems], Nat.le_refl _⟩

theorem extends_insert (heap : Heap) (ref : MapRef) (name : String) (value : Value) :
    heap.Extends (heap.insert ref name value) :=
  ⟨Nat.le_refl _, by simp [Heap.insert, setEntries]⟩

theorem extends_newList (heap : Heap) (items : List Value) : heap.Extends (heap.newList items).2 :=
  ⟨by simp [newList], Nat.le_refl _⟩

theorem extends_newMap (heap : Heap) (entries : Dictionary Value) :
    heap.Extends (heap.newMap entries).2 :=
  ⟨Nat.le_refl _, by simp [newMap]⟩

theorem has_newList (heap : Heap) (items : List Value) :
    (heap.newList items).2.Has (.list (heap.newList items).1) := by
  simp [newList, Has]

theorem closed_empty : Heap.empty.Closed where
  items _ _ member := by cases member
  entries _ _ _ found := by cases found

namespace Closed

variable (closed : heap.Closed)
include closed

/-- A change of the items of one list to good ones keeps a heap closed. -/
theorem setItems {items : List Value} (good : ∀ item ∈ items, heap.Has item) (ref : ListRef) :
    (heap.setItems ref items).Closed where
  items other value member := by
    refine Has.mono ?_ (extends_setItems heap ref items)
    rcases mem_of_setItems member with member | member
    · exact good value member
    · exact closed.items other value member
  entries other name value found :=
    Has.mono (closed.entries other name value found) (extends_setItems heap ref items)

/-- Giving a key a good value keeps a heap closed. -/
theorem insert (good : heap.Has value) (ref : MapRef) (name : String) :
    (heap.insert ref name value).Closed where
  items other item member :=
    Has.mono (closed.items other item member) (extends_insert heap ref name value)
  entries other otherName found present := by
    refine Has.mono ?_ (extends_insert heap ref name value)
    rcases get?_of_insert present with rfl | present
    · exact good
    · exact closed.entries other otherName found present

/-- A new list of good items keeps a heap closed. -/
theorem newList {items : List Value} (good : ∀ item ∈ items, heap.Has item) :
    (heap.newList items).2.Closed where
  items other value member := by
    refine Has.mono ?_ (extends_newList heap items)
    rcases mem_of_newList member with member | member
    · exact good value member
    · exact closed.items other value member
  entries other name value found :=
    Has.mono (closed.entries other name value found) (extends_newList heap items)

/-- A new map of good entries keeps a heap closed. -/
theorem newMap {entries : Dictionary Value}
    (good : ∀ name value, entries.get? name = some value → heap.Has value) :
    (heap.newMap entries).2.Closed where
  items ref value member := Has.mono (closed.items ref value member) (extends_newMap heap entries)
  entries other name value found := by
    refine Has.mono ?_ (extends_newMap heap entries)
    rcases get?_of_newMap found with found | found
    · exact good name value found
    · exact closed.entries other name value found

/-- A new function keeps a heap closed. -/
theorem newFunction (name : String) (code : FunctionCode) :
    (heap.newFunction name code).2.Closed :=
  ⟨closed.items, closed.entries⟩

end Closed

/-- The discipline of closed heaps, on which good handles are good values. -/
def ownership : Discipline where
  Sound := Closed
  Later := Extends
  Good value heap := heap.Has value
  refl := .refl
  trans := .trans
  stays grown has := has.mono grown
  plain heap value plain := by cases value <;> trivial
  method _ _ _ := trivial
  item closed _ := closed.items _
  entry closed _ := closed.entries _
  setItems closed good ref := ⟨closed.setItems good ref, extends_setItems _ ref _⟩
  insert closed _ good name := ⟨closed.insert good _ name, extends_insert _ _ name _⟩
  newList closed good := ⟨closed.newList good, extends_newList _ _, has_newList _ _⟩
  newFunction closed name code := ⟨closed.newFunction name code, Nat.le_refl _, Nat.le_refl _⟩

end Heap

/-- The heap has given out the maps of the context. -/
def Context.Within (context : Context) (heap : Heap) : Prop :=
  (∀ frame ∈ context.frames, frame.index < heap.maps.size) ∧
    ∀ frame ∈ context.temporary, frame.index < heap.maps.size

theorem Context.Within.mono {context : Context} {former latter : Heap}
    (within : context.Within former) (grown : former.Extends latter) : context.Within latter :=
  ⟨fun frame member => Nat.lt_of_lt_of_le (within.1 frame member) grown.maps,
    fun frame member => Nat.lt_of_lt_of_le (within.2 frame member) grown.maps⟩

/-- Names are written to the map that is looked into first, if there is a map for that. -/
def Context.WellMade (context : Context) : Prop :=
  ∀ frame ∈ context.temporary, context.frames.head? = some frame

/-- The context that is made over maps that have been given out is well made, and so have its own
maps been. -/
theorem Context.make_within {heap : Heap} {scope : MapRef} (given : scope.index < heap.maps.size)
    {locals : Option MapRef} (givenLocals : ∀ frame ∈ locals, frame.index < heap.maps.size)
    (options : Options) :
    (make heap scope locals options).1.Within (make heap scope locals options).2 ∧
      (make heap scope locals options).1.WellMade := by
  cases raw : options.rawScope with
  | true =>
      simp only [make, raw, if_true]
      refine ⟨⟨?_, by simp⟩, by simp [WellMade]⟩
      simpa [or_imp, forall_and] using ⟨givenLocals, given⟩
  | false =>
      simp only [make, raw, Bool.false_eq_true, if_false]
      refine ⟨⟨?_, ?_⟩, by simp [WellMade]⟩
      · intro frame member
        simp only [Heap.newMap, Array.size_push]
        simp only [Heap.newMap, List.cons_append, List.mem_cons, List.mem_append,
          Option.mem_toList, Array.size_push, List.not_mem_nil, or_false] at member
        rcases member with rfl | member | rfl | rfl
        · exact Nat.lt_of_lt_of_le (Nat.lt_succ_self _) (Nat.le_succ _)
        · exact Nat.lt_succ_of_lt (Nat.lt_succ_of_lt (givenLocals frame member))
        · exact Nat.lt_succ_of_lt (Nat.lt_succ_of_lt given)
        · exact Nat.lt_succ_self _
      · intro frame member
        cases member
        simp only [Heap.newMap, Array.size_push]
        exact Nat.lt_of_lt_of_le (Nat.lt_succ_self _) (Nat.le_succ _)

/-- The host gives values with good handles and leaves a closed heap, and takes no handle back. -/
def Host.Safe (host : Host) : Prop :=
  ∀ function receiver arguments (heap : Heap), heap.Closed → heap.Has receiver →
    (∀ argument ∈ arguments, heap.Has argument) →
    (host function receiver arguments heap).2.Closed ∧
      heap.Extends (host function receiver arguments heap).2 ∧
      ∀ value, (host function receiver arguments heap).1 = .ok value →
        (host function receiver arguments heap).2.Has value

/-- The machine has a closed heap that has given out the maps of the context. -/
structure Machine.Ready (machine : Machine) (context : Context) : Prop where
  closed : machine.heap.Closed
  within : context.Within machine.heap

variable {host : Host} {context : Context} {machine there : Machine}

theorem Machine.Ready.later (ready : machine.Ready context) (closed : there.heap.Closed)
    (grown : machine.heap.Extends there.heap) : there.Ready context :=
  ⟨closed, ready.within.mono grown⟩

/-- A closed heap admits every context, as all that is found in it is good. -/
theorem Heap.Closed.ready (closed : machine.heap.Closed) :
    Heap.ownership.Ready context machine where
  sound := closed
  admits :=
    { reads := fun _ closed _ frame _ => closed.entries frame
      writes := fun _ closed _ name frame _ value good =>
        ⟨closed.insert good frame name, extends_insert _ frame name value⟩ }

theorem Host.Safe.trusts (safe : host.Safe) : Heap.ownership.Trusts host :=
  fun function receiver arguments heap _ closed _ owned good =>
    safe function receiver arguments heap closed owned good

/-- Evaluation keeps heaps closed and gives values with good handles. -/
theorem Expr.evaluate_owns (safe : host.Safe) (closed : machine.heap.Closed) (context : Context)
    (expr : Expr) :
    (expr.evaluate host context).Keeps Heap.ownership machine fun value heap => heap.Has value :=
  (expr.meaning_keeps safe.trusts context).value machine closed.ready

end Parlance
