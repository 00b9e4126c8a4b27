import Parlance.Dictionary
import Parlance.Value.Basic

/-!
# Heaps

A heap holds the contents of lists and maps. Handles are given out in order and never taken back. A
handle that was not given out has empty contents, and writing through it changes nothing.
-/

namespace Parlance

/-- The contents of all lists and maps, and the number of function identities given out. -/
structure Heap where
  lists : Array (List Value)
  maps : Array (Dictionary Value)
  functions : Nat

namespace Heap

/-- The heap without lists and maps. -/
def empty : Heap := ⟨#[], #[], 0⟩

/-- The items of a list. -/
def items (heap : Heap) (ref : ListRef) : List Value := heap.lists.getD ref.index []

/-- The entries of a map. -/
def entries (heap : Heap) (ref : MapRef) : Dictionary Value := heap.maps.getD ref.index .empty

/-- The heap with other items in a list. -/
def setItems (heap : Heap) (ref : ListRef) (items : List Value) : Heap :=
  { heap with lists := heap.lists.setIfInBounds ref.index items }

/-- The heap with other entries in a map. -/
def setEntries (heap : Heap) (ref : MapRef) (entries : Dictionary Value) : Heap :=
  { heap with maps := heap.maps.setIfInBounds ref.index entries }

/-- A new list of these items. -/
def newList (heap : Heap) (items : List Value) : ListRef × Heap :=
  (⟨heap.lists.size⟩, { heap with lists := heap.lists.push items })

/-- A new map of these entries. -/
def newMap (heap : Heap) (entries : Dictionary Value) : MapRef × Heap :=
  (⟨heap.maps.size⟩, { heap with maps := heap.maps.push entries })

/-- A new function. -/
def newFunction (heap : Heap) (name : String) (code : FunctionCode) : Function × Heap :=
  (⟨heap.functions, name, code⟩, { heap with functions := heap.functions + 1 })

/-- The value of a key of a map. -/
def get? (heap : Heap) (ref : MapRef) (key : String) : Option Value := (heap.entries ref).get? key

/-- Gives a key of a map a value. -/
def insert (heap : Heap) (ref : MapRef) (key : String) (value : Value) : Heap :=
  heap.setEntries ref ((heap.entries ref).insert key value)

/-- Takes a key out of a map. -/
def erase (heap : Heap) (ref : MapRef) (key : String) : Heap :=
  heap.setEntries ref ((heap.entries ref).erase key)

/-- The length up to which a single write may make a list grow. -/
def listLimit : Nat := Nat.pow 2 24

/-- Puts an item at an index of a list. Beyond the end of the list the gap is filled with undefined
items, unless the list would grow too long. -/
def putItem? (heap : Heap) (ref : ListRef) (index : Nat) (value : Value) : Option Heap :=
  let items := heap.items ref
  if index < items.length then some (heap.setItems ref (items.set index value))
  else if index < listLimit then
    some (heap.setItems ref
      (items ++ List.replicate (index - items.length) .undefined ++ [value]))
  else none

/-- Puts items at the end of a list. -/
def pushItems (heap : Heap) (ref : ListRef) (values : List Value) : Heap :=
  heap.setItems ref (heap.items ref ++ values)

/-- Takes the last item off a list. -/
def popItem (heap : Heap) (ref : ListRef) : Option Value × Heap :=
  let items := heap.items ref
  (items.getLast?, heap.setItems ref items.dropLast)

end Heap

end Parlance
