import Parlance.Proofs.Value.Likeness

/-!
# Mirrored heaps

A heap is mirrored in one that has two maps more. The maps that were there before keep their handles
and those that are made later are found two places further on. Some of the maps are hidden: nothing
is said about their entries, and they are not found in the others.
-/

namespace Parlance

/-- The handle of the map in a heap that has two maps more from an index on. -/
def MapRef.past (start : Nat) (ref : MapRef) : MapRef :=
  if ref.index < start then ref else ⟨ref.index + 2⟩

/-- A map that is not hidden, and the same map in a heap that has two more. -/
structure MapRef.Mirrored (start : Nat) (hidden : List MapRef) (ref other : MapRef) : Prop where
  shown : ref ∉ hidden
  moved : other = ref.past start

/-- The latter heap has two maps more and is otherwise like the former one, apart from the hidden
maps. -/
structure Heap.Mirrors (start : Nat) (hidden : List MapRef) (former latter : Heap) : Prop where
  lists : former.lists.size = latter.lists.size
  maps : former.maps.size + 2 = latter.maps.size
  functions : former.functions = latter.functions
  grown : start ≤ former.maps.size
  items : ∀ ref, List.Forall₂ (Value.Corresponds (MapRef.Mirrored start hidden))
    (former.items ref) (latter.items ref)
  entry : ∀ {ref other}, MapRef.Mirrored start hidden ref other → ∀ name,
    Option.Rel (Value.Corresponds (MapRef.Mirrored start hidden)) (former.get? ref name)
      (latter.get? other name)

namespace MapRef

variable {start : Nat} {hidden : List MapRef} {first second other another : MapRef}

theorem past_inj : first.past start = second.past start ↔ first = second := by
  obtain ⟨first⟩ := first
  obtain ⟨second⟩ := second
  simp only [past]
  split <;> split <;> simp only [mk.injEq] <;> omega

/-- The two maps more are none of those that were mirrored. -/
theorem past_ne {index : Nat} (least : start ≤ index) (most : index < start + 2) :
    first.past start ≠ ⟨index⟩ := by
  obtain ⟨first⟩ := first
  simp only [past]
  split <;> simp only [ne_eq, mk.injEq] <;> omega

theorem past_of_lt (before : first.index < start) : first.past start = first := if_pos before

/-- A map from before is the mirror of none but itself. -/
theorem eq_of_past_eq (before : second.index < start) (same : first.past start = second) :
    first = second := by
  rwa [← past_of_lt before, past_inj] at same

theorem past_lt_iff {size : Nat} (grown : start ≤ size) :
    (first.past start).index < size + 2 ↔ first.index < size := by
  obtain ⟨first⟩ := first
  simp only [past]
  split <;> simp only <;> omega

theorem Mirrored.oneToOne (left : Mirrored start hidden first other)
    (right : Mirrored start hidden second another) : first = second ↔ other = another := by
  rw [left.moved, right.moved, past_inj]

end MapRef

namespace Heap.Mirrors

variable {start : Nat} {hidden : List MapRef} {former latter : Heap} {value another : Value}
  {name : String}

variable (mirrors : former.Mirrors start hidden latter)
include mirrors

theorem setItems {items others : List Value}
    (all : List.Forall₂ (Value.Corresponds (MapRef.Mirrored start hidden)) items others)
    (ref : ListRef) : (former.setItems ref items).Mirrors start hidden
      (latter.setItems ref others) where
  lists := by simpa [Heap.setItems] using mirrors.lists
  maps := mirrors.maps
  functions := mirrors.functions
  grown := mirrors.grown
  entry := mirrors.entry
  items other := by
    rw [items_setItems, items_setItems, mirrors.lists]
    split
    · exact all
    · exact mirrors.items other

theorem newList {items others : List Value}
    (all : List.Forall₂ (Value.Corresponds (MapRef.Mirrored start hidden)) items others) :
    (former.newList items).2.Mirrors start hidden (latter.newList others).2 where
  lists := by simpa [Heap.newList] using mirrors.lists
  maps := mirrors.maps
  functions := mirrors.functions
  grown := mirrors.grown
  entry := mirrors.entry
  items other := by
    rw [items_newList, items_newList, mirrors.lists]
    split
    · exact all
    · exact mirrors.items other

theorem newFunction (name : String) (code : FunctionCode) :
    (former.newFunction name code).2.Mirrors start hidden (latter.newFunction name code).2 where
  lists := mirrors.lists
  maps := mirrors.maps
  functions := congrArg (· + 1) mirrors.functions
  grown := mirrors.grown
  entry := mirrors.entry
  items := mirrors.items

/-- The heaps stay mirrored if maps change in such a way that mirrored maps still have entries that
correspond to each other. -/
theorem insert_of_entry {ref other : MapRef}
    (entry : ∀ {shown mirror}, MapRef.Mirrored start hidden shown mirror → ∀ key,
      Option.Rel (Value.Corresponds (MapRef.Mirrored start hidden))
        ((former.insert ref name value).get? shown key)
        ((latter.insert other name another).get? mirror key)) :
    (former.insert ref name value).Mirrors start hidden (latter.insert other name another) where
  lists := mirrors.lists
  maps := by rw [size_insert, size_insert, mirrors.maps]
  functions := mirrors.functions
  grown := by rw [size_insert]; exact mirrors.grown
  entry := entry
  items := mirrors.items

theorem insert {ref other : MapRef} (link : MapRef.Mirrored start hidden ref other)
    (same : Value.Corresponds (MapRef.Mirrored start hidden) value another) (name : String) :
    (former.insert ref name value).Mirrors start hidden (latter.insert other name another) := by
  refine mirrors.insert_of_entry fun {shown mirror} mirrored key => ?_
  have present : other.index < latter.maps.size ↔ ref.index < former.maps.size := by
    rw [link.moved, ← mirrors.maps]
    exact MapRef.past_lt_iff mirrors.grown
  by_cases given : ref.index < former.maps.size
  · rw [get?_insert given, get?_insert (present.2 given)]
    simp only [link.oneToOne mirrored]
    split
    · exact .some same
    · exact mirrors.entry mirrored key
  · rw [insert_of_not_given given, insert_of_not_given fun found => given (present.1 found)]
    exact mirrors.entry mirrored key

/-- A write to a hidden map may be matched by one to the first of the two maps more. -/
theorem insert_hidden {frame : MapRef} (member : frame ∈ hidden) (name : String) (value : Value)
    (another : Value) : (former.insert frame name value).Mirrors start hidden
      (latter.insert ⟨start⟩ name another) := by
  refine mirrors.insert_of_entry fun {shown mirror} mirrored key => ?_
  have apart : frame ≠ shown := by
    rintro rfl
    exact mirrored.shown member
  have apartToo : (⟨start⟩ : MapRef) ≠ mirror := by
    rw [mirrored.moved]
    exact (MapRef.past_ne (Nat.le_refl _) (by omega)).symm
  rw [get?_insert_of_ne apart, get?_insert_of_ne apartToo]
  exact mirrors.entry mirrored key

end Heap.Mirrors

end Parlance
