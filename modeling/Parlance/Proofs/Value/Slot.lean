import Parlance.Proofs.Value.Heap

/-!
# Slots

A slot is a key of a map or an index of a list. A write of a value to a slot changes that slot and
no other, except that a list is filled up with undefined items if the slot is beyond its end.
-/

namespace Parlance

/-- Where a heap can hold a value. -/
inductive Slot where
  | entry (ref : MapRef) (key : String)
  | item (ref : ListRef) (index : Nat)
  deriving Repr, DecidableEq

/-- Both slots are in one list, and the other one is further back. -/
def Slot.Before : Slot → Slot → Prop
  | item ref position, item other index => ref = other ∧ position < index
  | _, _ => False

namespace Heap

/-- The value in the slot, if there is one. -/
def valueAt? (heap : Heap) : Slot → Option Value
  | .entry ref key => heap.get? ref key
  | .item ref index => (heap.items ref)[index]?

/-- The latter heap is the former one after a write of the value to the slot. -/
structure Puts (former : Heap) (slot : Slot) (value : Value) (latter : Heap) : Prop where
  here : latter.valueAt? slot = some value
  before : ∀ other : Slot, other.Before slot →
    latter.valueAt? other = some ((former.valueAt? other).getD .undefined)
  elsewhere : ∀ other, other ≠ slot → ¬other.Before slot →
    latter.valueAt? other = former.valueAt? other
  lists : latter.lists.size = former.lists.size
  maps : latter.maps.size = former.maps.size

variable {heap latter : Heap} {value : Value} {ref : ListRef} {index : Nat}

/-- A key of a map is written by giving it the value. -/
theorem puts_insert {ref : MapRef} (given : ref.index < heap.maps.size) (key : String)
    (value : Value) : heap.Puts (.entry ref key) value (heap.insert ref key value) where
  here := by rw [valueAt?, get?_insert given, if_pos ⟨rfl, rfl⟩]
  before other before := by cases other <;> cases before
  elsewhere other different _ := by
    cases other with
    | entry otherRef otherKey =>
        rw [valueAt?, get?_insert given, if_neg]
        · rfl
        · rintro ⟨rfl, rfl⟩
          exact different rfl
    | item otherRef position => rfl
  lists := rfl
  maps := size_insert heap ref key value

/-- A list takes an item by being filled up to its index, within the limit if it has to grow. -/
theorem putItem?_eq (heap : Heap) (ref : ListRef) (index : Nat) (value : Value) :
    heap.putItem? ref index value =
      if index < (heap.items ref).length ∨ index < listLimit then
        some (heap.setItems ref ((heap.items ref ++
          List.replicate (index + 1 - (heap.items ref).length) Value.undefined).set index value))
      else none := by
  rw [putItem?]
  by_cases inside : index < (heap.items ref).length
  · have noGap : index + 1 - (heap.items ref).length = 0 := by omega
    simp [inside, noGap]
  · have gap : index + 1 - (heap.items ref).length =
        index - (heap.items ref).length + 1 := by omega
    simp [inside, gap, List.replicate_succ', List.set_append]

/-- A list refuses an item exactly if it is beyond its end and beyond the limit. -/
theorem putItem?_eq_none_iff :
    heap.putItem? ref index value = none ↔
      (heap.items ref).length ≤ index ∧ listLimit ≤ index := by
  rw [putItem?_eq]
  split <;> simp <;> omega

/-- The list after an item was put into it. -/
theorem eq_of_putItem? (put : heap.putItem? ref index value = some latter) :
    latter = heap.setItems ref ((heap.items ref ++
      List.replicate (index + 1 - (heap.items ref).length) Value.undefined).set index value) := by
  rw [putItem?_eq, Option.ite_none_right_eq_some] at put
  exact (Option.some.inj put.2).symm

section

variable (given : ref.index < heap.lists.size) (put : heap.putItem? ref index value = some latter)
include given put

/-- An item that is put into a list is written at its index. -/
theorem puts_of_putItem? : heap.Puts (.item ref index) value latter := by
  cases eq_of_putItem? put
  constructor
  case here =>
    rw [valueAt?, items_setItems, if_pos ⟨rfl, given⟩, List.getElem?_set_self]
    simp only [List.length_append, List.length_replicate]
    omega
  case before =>
    rintro (_ | ⟨other, position⟩) before
    · cases before
    · obtain ⟨rfl, before⟩ := before
      rw [valueAt?, items_setItems, if_pos ⟨rfl, given⟩, List.getElem?_set_ne (by omega)]
      by_cases inside : position < (heap.items other).length
      · rw [List.getElem?_append_left inside, valueAt?, List.getElem?_eq_getElem inside]
        rfl
      · rw [List.getElem?_append_right (by omega), List.getElem?_replicate, if_pos (by omega),
          valueAt?, List.getElem?_eq_none (by omega)]
        rfl
  case elsewhere =>
    rintro (⟨other, key⟩ | ⟨other, position⟩) different notBefore
    · rfl
    · rw [valueAt?, items_setItems]
      split
      · rename_i same
        obtain ⟨rfl, _⟩ := same
        have behind : index < position := by
          have notSame : position ≠ index := fun same => different (by rw [same])
          have notEarlier : ¬position < index := fun earlier => notBefore ⟨rfl, earlier⟩
          omega
        rw [List.getElem?_set_ne (by omega), valueAt?]
        by_cases inside : position < (heap.items ref).length
        · rw [List.getElem?_append_left inside]
        · rw [List.getElem?_append_right (by omega), List.getElem?_replicate, if_neg (by omega),
            List.getElem?_eq_none (by omega)]
      · rfl
  case lists => exact Array.size_setIfInBounds
  case maps => rfl

/-- An item that was put into a list is found there. -/
theorem getElem?_of_putItem? : (latter.items ref)[index]? = some value :=
  (puts_of_putItem? given put).here

/-- A list that takes an item grows up to its index, and never shrinks. -/
theorem length_of_putItem? :
    (latter.items ref).length = max (heap.items ref).length (index + 1) := by
  cases eq_of_putItem? put
  rw [items_setItems, if_pos ⟨rfl, given⟩, List.length_set, List.length_append,
    List.length_replicate]
  omega

end

end Heap

end Parlance
