import Parlance.Number.Numeral
import Parlance.Value.Heap

/-!
# Rendering

The text of a value. A list is rendered as its items with a separator between them, where undefined
and null items leave nothing, and so does a list that is met again while it is being rendered. The
lists being rendered are on a stack. The contents of maps are not rendered.
-/

namespace Parlance

/-- Rendering works on the stack of the lists being rendered, the innermost first. It has no result
if lists nest deeper than expected. -/
abbrev Rendering := StateT (List ListRef) Option

namespace Rendering

/-- Puts a list on the stack, unless it is there already; whether it was put there. -/
def enter (ref : ListRef) : Rendering Bool := fun stack =>
  if stack.contains ref then some (false, stack) else some (true, ref :: stack)

/-- Takes the innermost list off the stack. -/
def leave : Rendering Unit := fun stack => some ((), stack.tail)

/-- The text rendered while no list is being rendered. -/
def fromOutside (rendering : Rendering Text) : Text :=
  match rendering [] with
  | some (text, _) => text
  | none => []

end Rendering

namespace Value

/-- The text of a function. -/
def functionText (function : Function) : Text :=
  "function ".toList ++ function.name.toList ++ "() \x7b [native code] \x7d".toList

/-- Renders the items of a list with a separator between them, each in the given way. -/
def joinOn (heap : Heap) (text : Value → Rendering Text) (ref : ListRef) (separator : Text) :
    Rendering Text := do
  if ← Rendering.enter ref then
    let parts ← (heap.items ref).mapM fun item =>
      if item.isNullish then return [] else text item
    Rendering.leave
    return Text.join separator parts
  else return []

/-- Renders a value whose lists nest no deeper than the fuel. -/
def textOn (heap : Heap) : (fuel : Nat) → Value → Rendering Text
  | _, undefined => return "undefined".toList
  | _, null => return "null".toList
  | _, bool value => return if value then "true".toList else "false".toList
  | _, number value => return (Numeral.write value).toList
  | _, string text => return text.toList
  | _, map _ => return "[object Map]".toList
  | _, function callee => return functionText callee
  | 0, list _ => fun _ => none
  | fuel + 1, list ref => joinOn heap (textOn heap fuel) ref [',']

/-- The text of a value. No more lists than there are nest in each other while they are rendered. -/
def text (heap : Heap) (value : Value) : Text :=
  (textOn heap (heap.lists.size + 1) value).fromOutside

/-- The text of a value as a string. -/
def render (heap : Heap) (value : Value) : String := String.ofList (value.text heap)

/-- The items of a list as text, with a separator between them. -/
def joinItems (heap : Heap) (ref : ListRef) (separator : Text) : Text :=
  (joinOn heap (textOn heap heap.lists.size) ref separator).fromOutside

end Value

end Parlance
