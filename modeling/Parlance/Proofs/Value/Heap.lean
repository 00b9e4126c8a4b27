import Parlance.Value.Heap

/-!
# Reading a changed heap

What lists and maps hold after a write and after a new list or map. A write through a handle that
was not given out changes nothing.
-/

namespace Parlance.Heap

variable {heap : Heap} {value : Value}

/-- Only lists of the heap have items. -/
theorem given_of_mem_items {ref : ListRef} (member : value ∈ heap.items ref) :
    ref.index < heap.lists.size := by
  refine Nat.lt_of_not_le fun missing => ?_
  rw [Heap.items, Array.getD_eq_getD_getElem?, Array.getElem?_eq_none missing] at member
  cases member

/-- Only maps of the heap have entries. -/
theorem given_of_mem_entries {ref : MapRef} {entry : String × Value}
    (member : entry ∈ (heap.entries ref).entries) : ref.index < heap.maps.size := by
  refine Nat.lt_of_not_le fun missing => ?_
  rw [Heap.entries, Array.getD_eq_getD_getElem?, Array.getElem?_eq_none missing] at member
  cases member

theorem items_setItems (heap : Heap) (ref other : ListRef) (items : List Value) :
    (heap.setItems ref items).items other =
      if ref = other ∧ ref.index < heap.lists.size then items else heap.items other := by
  obtain ⟨index⟩ := ref
  obtain ⟨otherIndex⟩ := other
  simp only [Heap.items, setItems, Array.getD_eq_getD_getElem?, Array.getElem?_setIfInBounds,
    ListRef.mk.injEq]
  by_cases same : index = otherIndex
  · subst same
    by_cases inside : index < heap.lists.size <;> simp [inside]
  · simp [same]

theorem entries_setEntries (heap : Heap) (ref other : MapRef) (entries : Dictionary Value) :
    (heap.setEntries ref entries).entries other =
      if ref = other ∧ ref.index < heap.maps.size then entries else heap.entries other := by
  obtain ⟨index⟩ := ref
  obtain ⟨otherIndex⟩ := other
  simp only [Heap.entries, setEntries, Array.getD_eq_getD_getElem?, Array.getElem?_setIfInBounds,
    MapRef.mk.injEq]
  by_cases same : index = otherIndex
  · subst same
    by_cases inside : index < heap.maps.size <;> simp [inside]
  · simp [same]

theorem get?_of_not_given {ref : MapRef} (missing : ¬ref.index < heap.maps.size) (name : String) :
    heap.get? ref name = none := by
  rw [Heap.get?, entries, Array.getD_eq_getD_getElem?,
    Array.getElem?_eq_none (Nat.le_of_not_lt missing)]
  rfl

/-- What a key has after a key was given a value, through a handle that was given out. -/
theorem get?_insert {ref : MapRef} (given : ref.index < heap.maps.size) (other : MapRef)
    (name otherName : String) (value : Value) :
    (heap.insert ref name value).get? other otherName =
      if ref = other ∧ otherName = name then some value else heap.get? other otherName := by
  rw [Heap.get?, Heap.insert, entries_setEntries]
  by_cases same : ref = other
  · subst same
    simp [given, Dictionary.get?_insert, Heap.get?]
  · simp [same, Heap.get?]

/-- A write through one handle leaves the entries under others as they are. -/
theorem entries_insert_of_ne {ref other : MapRef} (different : ref ≠ other) (name : String)
    (value : Value) : (heap.insert ref name value).entries other = heap.entries other := by
  rw [Heap.insert, entries_setEntries, if_neg fun both => different both.1]

theorem get?_insert_of_ne {ref other : MapRef} (different : ref ≠ other)
    (name otherName : String) (value : Value) :
    (heap.insert ref name value).get? other otherName = heap.get? other otherName := by
  rw [Heap.get?, entries_insert_of_ne different, Heap.get?]

/-- A write to one key of a map leaves what is under other keys as it is. -/
theorem get?_insert_of_key_ne (heap : Heap) {name key : String} (different : key ≠ name)
    (ref other : MapRef) (value : Value) :
    (heap.insert ref name value).get? other key = heap.get? other key := by
  rw [Heap.get?, Heap.insert, entries_setEntries]
  split
  · rename_i both
    rw [Dictionary.get?_insert, if_neg different, both.1, Heap.get?]
  · rfl

/-- A write through a handle that was not given out changes nothing. -/
theorem insert_of_not_given {ref : MapRef} (missing : ¬ref.index < heap.maps.size) (name : String)
    (value : Value) : heap.insert ref name value = heap := by
  rw [Heap.insert, setEntries, Array.setIfInBounds_eq_of_size_le (Nat.le_of_not_lt missing)]

@[simp] theorem size_insert (heap : Heap) (ref : MapRef) (name : String) (value : Value) :
    (heap.insert ref name value).maps.size = heap.maps.size :=
  Array.size_setIfInBounds

/-- What is under a key after a key was given a value is that value, or was there before. -/
theorem get?_of_insert {ref other : MapRef} {name otherName : String} {found : Value}
    (present : (heap.insert ref name value).get? other otherName = some found) :
    found = value ∨ heap.get? other otherName = some found := by
  by_cases given : ref.index < heap.maps.size
  · rw [get?_insert given] at present
    split at present
    · cases present
      exact .inl rfl
    · exact .inr present
  · rw [Heap.get?, Heap.insert, entries_setEntries, if_neg fun both => given both.2] at present
    exact .inr present

/-- The items after a change of one list are the new ones, or were there before. -/
theorem mem_of_setItems {ref other : ListRef} {items : List Value}
    (member : value ∈ (heap.setItems ref items).items other) :
    value ∈ items ∨ value ∈ heap.items other := by
  rw [items_setItems] at member
  split at member
  · exact .inl member
  · exact .inr member

theorem items_newList (heap : Heap) (other : ListRef) (items : List Value) :
    (heap.newList items).2.items other =
      if other.index = heap.lists.size then items else heap.items other := by
  simp only [Heap.newList, Heap.items, Array.getD_eq_getD_getElem?, Array.getElem?_push]
  split <;> rfl

theorem items_newList_new (heap : Heap) (items : List Value) :
    (heap.newList items).2.items (heap.newList items).1 = items := by
  rw [items_newList]
  exact if_pos rfl

theorem mem_of_newList {other : ListRef} {items : List Value}
    (member : value ∈ (heap.newList items).2.items other) :
    value ∈ items ∨ value ∈ heap.items other := by
  rw [items_newList] at member
  split at member
  · exact .inl member
  · exact .inr member

theorem entries_newMap (heap : Heap) (other : MapRef) (entries : Dictionary Value) :
    (heap.newMap entries).2.entries other =
      if other.index = heap.maps.size then entries else heap.entries other := by
  simp only [Heap.newMap, Heap.entries, Array.getD_eq_getD_getElem?, Array.getElem?_push]
  split <;> rfl

@[simp] theorem size_newMap (heap : Heap) (entries : Dictionary Value) :
    (heap.newMap entries).2.maps.size = heap.maps.size + 1 :=
  Array.size_push _

theorem entries_newMap_new (heap : Heap) (entries : Dictionary Value) :
    (heap.newMap entries).2.entries (heap.newMap entries).1 = entries := by
  rw [entries_newMap]
  exact if_pos rfl

theorem get?_of_newMap {other : MapRef} {entries : Dictionary Value} {name : String}
    (present : (heap.newMap entries).2.get? other name = some value) :
    entries.get? name = some value ∨ heap.get? other name = some value := by
  rw [Heap.get?, entries_newMap] at present
  split at present
  · exact .inl present
  · exact .inr present

end Parlance.Heap
