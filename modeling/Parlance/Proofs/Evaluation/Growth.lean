import Parlance.Proofs.Evaluation.Ownership
import Parlance.Proofs.Value.Rendering
import Parlance.Value.Coercion

/-!
# Growing heaps

A heap grows if it gives out new handles and leaves the lists and maps that it has as they are. The
text and the number of a value that the former heap has depend on the former lists only, so they stay
the same.
-/

namespace Parlance

/-- The latter heap has what the former one has, with the same contents. -/
structure Heap.Grows (former latter : Heap) : Prop where
  handles : former.Extends latter
  items : ∀ ref, ref.index < former.lists.size → latter.items ref = former.items ref
  entries : ∀ ref, ref.index < former.maps.size → latter.entries ref = former.entries ref

namespace Heap

variable {former middle latter : Heap}

theorem Grows.refl (heap : Heap) : heap.Grows heap :=
  ⟨.refl heap, fun _ _ => rfl, fun _ _ => rfl⟩

theorem Grows.trans (first : former.Grows middle) (second : middle.Grows latter) :
    former.Grows latter where
  handles := first.handles.trans second.handles
  items ref given :=
    (second.items ref (Nat.lt_of_lt_of_le given first.handles.lists)).trans (first.items ref given)
  entries ref given :=
    (second.entries ref (Nat.lt_of_lt_of_le given first.handles.maps)).trans
      (first.entries ref given)

theorem grows_newList (heap : Heap) (items : List Value) : heap.Grows (heap.newList items).2 where
  handles := extends_newList heap items
  items ref given := by
    rw [items_newList]
    exact if_neg (Nat.ne_of_lt given)
  entries _ _ := rfl

theorem grows_newFunction (heap : Heap) (name : String) (code : FunctionCode) :
    heap.Grows (heap.newFunction name code).2 :=
  ⟨⟨Nat.le_refl _, Nat.le_refl _⟩, fun _ _ => rfl, fun _ _ => rfl⟩

end Heap

namespace Value

variable {former latter : Heap}

mutual

theorem Renders.grows (closed : former.Closed) (grows : former.Grows latter) {inside value text} :
    Renders former inside value text → former.Has value → Renders latter inside value text
  | .undefined, _ => .undefined
  | .null, _ => .null
  | .bool, _ => .bool
  | .number, _ => .number
  | .string, _ => .string
  | .map, _ => .map
  | .function, _ => .function
  | .list joins, has => .list (joins.grows closed grows has)

theorem Joins.grows (closed : former.Closed) (grows : former.Grows latter)
    {inside ref separator text} :
    Joins former inside ref separator text → former.Has (.list ref) →
      Joins latter inside ref separator text
  | .again around, _ => .again around
  | .items new all, has =>
      .items new (grows.items _ has ▸ all.grows closed grows (closed.items _))

theorem RendersItems.grows (closed : former.Closed) (grows : former.Grows latter)
    {inside items parts} :
    RendersItems former inside items parts → (∀ item ∈ items, former.Has item) →
      RendersItems latter inside items parts
  | .nil, _ => .nil
  | .nullish nullish rest, has =>
      .nullish nullish (rest.grows closed grows (List.forall_mem_cons.1 has).2)
  | .item present here rest, has =>
      .item present (here.grows closed grows (List.forall_mem_cons.1 has).1)
        (rest.grows closed grows (List.forall_mem_cons.1 has).2)

end

variable {value : Value} (closed : former.Closed) (grows : former.Grows latter)
  (has : former.Has value)
include closed grows has

/-- The text of a value stays the same while the heap grows. -/
theorem text_of_grows : value.text latter = value.text former :=
  (renders_text latter value).unique ((renders_text former value).grows closed grows has)

/-- So does its number. -/
theorem toNumber_of_grows : value.toNumber latter = value.toNumber former := by
  cases value with
  | list ref => rw [toNumber, toNumber, text_of_grows closed grows has]
  | _ => rfl

end Value

end Parlance
