import Parlance.Value.Coercion

/-!
# Equality

Three ways of comparing values. Identity compares plain data by type and content, and lists, maps
and functions by their handles. Loose equality coerces values of different types, and starts again
with what they become. Structural equality compares the contents of lists and maps; it has no answer
when that would go on for ever, as it can for containers that contain themselves.
-/

namespace Parlance.Value

/-- Identity. -/
def identical : Value → Value → Bool
  | undefined, undefined => true
  | null, null => true
  | bool first, bool second => first == second
  | number first, number second => first == second
  | string first, string second => first == second
  | list first, list second => first == second
  | map first, map second => first == second
  | function first, function second => first.identity == second.identity
  | _, _ => false

/-- Whether the value is a truth value. -/
def isBool : Value → Bool
  | bool _ => true
  | _ => false

/-- The number of a truth value; other values stay as they are. -/
def numberOfBool : Value → Value
  | bool value => number (if value then 1 else 0)
  | other => other

/-- The text of a list, a map or a function; other values stay as they are. -/
def textOfObject (heap : Heap) (value : Value) : Value :=
  if value.isObject then string (value.render heap) else value

/-- The values that are compared loosely instead of these, if one of these has to be coerced. Beside
another value that is there, a truth value counts as a number; then beside plain data, an object
counts as its text. -/
def coerced? (heap : Heap) (first second : Value) : Option (Value × Value) :=
  if first.isNullish || second.isNullish then none
  else if first.isBool && second.isBool then none
  else if first.isBool then some (first.numberOfBool, second)
  else if second.isBool then some (first, second.numberOfBool)
  else if first.isObject && second.isObject then none
  else if first.isObject then some (first.textOfObject heap, second)
  else if second.isObject then some (first, second.textOfObject heap)
  else none

/-- Loose equality of plain data that is there: a number and a string are compared as numbers. -/
def scalarEquals (heap : Heap) (first second : Value) : Bool :=
  match first, second with
  | bool first, bool second => first == second
  | number first, number second => first == second
  | string first, string second => first == second
  | number first, string _ => first == second.toNumber heap
  | string _, number second => first.toNumber heap == second
  | _, _ => false

/-- Loose equality of values of which none is coerced. Undefined and null equal each other and
nothing else, and objects are compared by identity. -/
def plainEquals (heap : Heap) (first second : Value) : Bool :=
  if first.isNullish || second.isNullish then first.isNullish && second.isNullish
  else if first.isObject && second.isObject then first.identical second
  else scalarEquals heap first second

/-- Loose equality of values that are coerced no more often than the fuel; otherwise there is no
answer. -/
def looseWithin? (heap : Heap) : (fuel : Nat) → Value → Value → Option Bool
  | 0, first, second =>
      match coerced? heap first second with
      | none => some (plainEquals heap first second)
      | some _ => none
  | fuel + 1, first, second =>
      match coerced? heap first second with
      | none => some (plainEquals heap first second)
      | some (former, latter) => looseWithin? heap fuel former latter

/-- Loose equality. A truth value may have to be coerced, and an object beside it. -/
def looseEquals (heap : Heap) (first second : Value) : Bool :=
  (looseWithin? heap 2 first second).getD false

/-- Whether all items equal those of the other list, in order, as far as `equal` knows. -/
def allEqual? (equal : Value → Value → Option Bool) : List Value → List Value → Option Bool
  | [], [] => some true
  | first :: rest, second :: others =>
      match equal first second with
      | some true => allEqual? equal rest others
      | answer => answer
  | _, _ => some false

/-- Whether all entries equal those of the other dictionary, in order, as far as `equal` knows. -/
def allEntriesEqual? (equal : Value → Value → Option Bool) :
    List (String × Value) → List (String × Value) → Option Bool
  | [], [] => some true
  | (key, first) :: rest, (other, second) :: others =>
      if key = other then
        match equal first second with
        | some true => allEntriesEqual? equal rest others
        | answer => answer
      else some false
  | _, _ => some false

/-- Structural equality of values whose containers nest no deeper than the fuel; otherwise there
may be no answer. -/
def structuralWithin? (heap : Heap) : (fuel : Nat) → Value → Value → Option Bool
  | 0, list first, list second => if first = second then some true else none
  | 0, map first, map second => if first = second then some true else none
  | fuel + 1, list first, list second =>
      if first = second then some true
      else
        let items := heap.items first
        let others := heap.items second
        if items.length = others.length then
          allEqual? (structuralWithin? heap fuel) items others
        else some false
  | fuel + 1, map first, map second =>
      if first = second then some true
      else
        let entries := (heap.entries first).entries
        let others := (heap.entries second).entries
        if entries.length = others.length then
          allEntriesEqual? (structuralWithin? heap fuel) entries others
        else some false
  | _, first, second => some (first.identical second)

/-- Structural equality. Comparisons that nest deeper than there are pairs of containers repeat one
of the pairs and never end, so no answer is given for them. -/
def structural? (heap : Heap) (first second : Value) : Option Bool :=
  let lists := heap.lists.size
  let maps := heap.maps.size
  structuralWithin? heap (lists * lists + maps * maps + 1) first second

end Parlance.Value
