import Mathlib.Logic.ExistsUnique
import Parlance.Proofs.Value.Heap
import Parlance.Value.Rendering

/-!
# Rendering and the lists around it

What a value is rendered as, told without the stack: an occurrence of a list is left empty exactly if
the same list is around it, and a list that is met twice side by side is rendered both times. This
determines one text for every value on every heap, and rendering gives this text. It leaves the
stack as it found it, and it ends, since every list that is entered is one less to enter inside it.
-/

namespace Parlance.Value

mutual

/-- The value is rendered as the text inside these lists, the innermost first. -/
inductive Renders (heap : Heap) : (inside : List ListRef) → Value → Text → Prop where
  | undefined {inside} : Renders heap inside .undefined "undefined".toList
  | null {inside} : Renders heap inside .null "null".toList
  | bool {inside flag} :
      Renders heap inside (.bool flag) (if flag then "true".toList else "false".toList)
  | number {inside number} : Renders heap inside (.number number) (Numeral.write number).toList
  | string {inside text} : Renders heap inside (.string text) text.toList
  | map {inside ref} : Renders heap inside (.map ref) "[object Map]".toList
  | function {inside callee} : Renders heap inside (.function callee) (functionText callee)
  | list {inside ref text} (joins : Joins heap inside ref [','] text) :
      Renders heap inside (.list ref) text

/-- The items of the list are joined to the text inside these lists. Inside itself, it is empty. -/
inductive Joins (heap : Heap) : (inside : List ListRef) → ListRef → (separator : Text) → Text → Prop
    where
  | again {inside ref separator} (around : ref ∈ inside) : Joins heap inside ref separator []
  | items {inside ref separator parts} (new : ref ∉ inside)
      (all : RendersItems heap (ref :: inside) (heap.items ref) parts) :
      Joins heap inside ref separator (Text.join separator parts)

/-- The items are rendered as the parts, one by one. Undefined and null are empty. -/
inductive RendersItems (heap : Heap) : (inside : List ListRef) → List Value → List Text → Prop where
  | nil {inside} : RendersItems heap inside [] []
  | nullish {inside item items parts} (nullish : item.isNullish = true)
      (rest : RendersItems heap inside items parts) :
      RendersItems heap inside (item :: items) ([] :: parts)
  | item {inside item items part parts} (present : item.isNullish = false)
      (here : Renders heap inside item part) (rest : RendersItems heap inside items parts) :
      RendersItems heap inside (item :: items) (part :: parts)

end

variable {heap : Heap}

/-! ### One text at most -/

mutual

theorem Renders.unique {inside value} {text other : Text} : Renders heap inside value text →
    Renders heap inside value other → text = other
  | .undefined, .undefined => rfl
  | .null, .null => rfl
  | .bool, .bool => rfl
  | .number, .number => rfl
  | .string, .string => rfl
  | .map, .map => rfl
  | .function, .function => rfl
  | .list joins, .list joinsToo => joins.unique joinsToo

theorem Joins.unique {inside ref separator} {text other : Text} :
    Joins heap inside ref separator text → Joins heap inside ref separator other → text = other
  | .again _, .again _ => rfl
  | .again around, .items new _ => absurd around new
  | .items new _, .again around => absurd around new
  | .items _ all, .items _ allToo => congrArg (Text.join separator) (all.unique allToo)

theorem RendersItems.unique {inside items} {parts others : List Text} :
    RendersItems heap inside items parts → RendersItems heap inside items others → parts = others
  | .nil, .nil => rfl
  | .nullish _ rest, .nullish _ restToo => congrArg ([] :: ·) (rest.unique restToo)
  | .nullish nullish _, .item present _ _ => by simp [nullish] at present
  | .item present _ _, .nullish nullish _ => by simp [nullish] at present
  | .item _ here rest, .item _ hereToo restToo => by rw [here.unique hereToo, rest.unique restToo]

end

variable {inside stack : List ListRef} {value : Value} {ref : ListRef} {separator : Text}
  {items more : List Value} {parts : List Text} {fuel : Nat}

/-- Items in a row are rendered as the parts of the first and then those of the others. -/
theorem RendersItems.split (all : RendersItems heap inside (items ++ more) parts) :
    ∃ former latter, parts = former ++ latter ∧ RendersItems heap inside items former ∧
      RendersItems heap inside more latter := by
  induction items generalizing parts with
  | nil => exact ⟨[], parts, rfl, .nil, all⟩
  | cons item items ih =>
      cases all with
      | nullish nullish rest =>
          obtain ⟨former, latter, rfl, before, behind⟩ := ih rest
          exact ⟨[] :: former, latter, rfl, .nullish nullish before, behind⟩
      | item present here rest =>
          obtain ⟨former, latter, rfl, before, behind⟩ := ih rest
          exact ⟨_ :: former, latter, rfl, .item present here before, behind⟩

/-- A list that is not around it is rendered with all its items. -/
theorem RendersItems.of_list (new : ref ∉ inside)
    (all : RendersItems heap inside (.list ref :: more) parts) :
    ∃ full rest, parts = Text.join [','] full :: rest ∧
      RendersItems heap (ref :: inside) (heap.items ref) full ∧
      RendersItems heap inside more rest := by
  cases all with
  | nullish nullish => cases nullish
  | item _ here rest =>
      obtain _ | _ | _ | _ | _ | _ | _ | joins := here
      cases joins with
      | again around => exact absurd around new
      | items _ full => exact ⟨_, _, rfl, full, rest⟩

/-! ### Lists left to enter -/

/-- The lists of the heap that are not on the stack. -/
def unentered (heap : Heap) (stack : List ListRef) : List ListRef :=
  ((List.range heap.lists.size).map ListRef.mk).filter (!stack.contains ·)

theorem length_unentered_le (heap : Heap) (stack : List ListRef) :
    (unentered heap stack).length ≤ heap.lists.size := by
  have filtered :=
    List.length_filter_le (!stack.contains ·) ((List.range heap.lists.size).map ListRef.mk)
  simpa [unentered] using filtered

/-- Entering a list leaves fewer to enter. -/
theorem length_unentered_cons (new : ref ∉ stack) (given : ref.index < heap.lists.size) :
    (unentered heap (ref :: stack)).length < (unentered heap stack).length := by
  have without : unentered heap (ref :: stack) = (unentered heap stack).filter (· ≠ ref) := by
    rw [unentered, unentered, List.filter_filter]
    refine List.filter_congr fun other _ => ?_
    simp [Bool.not_or]
  rw [without, List.length_filter_lt_length_iff_exists]
  refine ⟨ref, ?_, by simp⟩
  simp only [unentered, List.mem_filter, List.mem_map, List.mem_range]
  exact ⟨⟨ref.index, given, rfl⟩, by simpa using new⟩

/-! ### What rendering gives -/

/-- Rendering the value from the stack gives what it is rendered as, and the same stack. -/
def RendersOn (heap : Heap) (rendering : Value → Rendering Text) (stack : List ListRef)
    (value : Value) : Prop :=
  ∃ text, rendering value stack = some (text, stack) ∧ Renders heap stack value text

variable {rendering : Value → Rendering Text}

/-- What follows a rendering goes on from its result and its stack. -/
theorem bind_eq_of_eq_some {α β : Type} {first : Rendering α} {next : α → Rendering β} {result : α}
    {after : List ListRef} (gives : first stack = some (result, after)) :
    (first >>= next) stack = next result after := by
  change ((first stack).bind fun given => next given.1 given.2) = next result after
  rw [gives, Option.bind_some]

/-- If each item is rendered on the stack, so are all of them. -/
theorem mapM_renders (renders : ∀ item ∈ items, RendersOn heap rendering stack item) :
    ∃ parts, (items.mapM fun item : Value => if item.isNullish then return [] else rendering item)
      stack = some (parts, stack) ∧ RendersItems heap stack items parts := by
  induction items with
  | nil => exact ⟨[], rfl, .nil⟩
  | cons item items ih =>
      obtain ⟨parts, mapped, all⟩ := ih fun other member => renders other (by simp [member])
      obtain ⟨text, rendered, here⟩ := renders item (by simp)
      cases nullish : item.isNullish with
      | true =>
          refine ⟨[] :: parts, ?_, .nullish nullish all⟩
          rw [List.mapM_cons, if_pos nullish, bind_eq_of_eq_some rfl, bind_eq_of_eq_some mapped]
          rfl
      | false =>
          refine ⟨text :: parts, ?_, .item nullish here all⟩
          rw [List.mapM_cons, if_neg (by simp [nullish]), bind_eq_of_eq_some rendered,
            bind_eq_of_eq_some mapped]
          rfl

/-- Joining enters the list, renders its items inside it and leaves it again. -/
theorem joinOn_renders
    (renders : ref ∉ stack → ∀ item ∈ heap.items ref, RendersOn heap rendering (ref :: stack) item) :
    ∃ text, joinOn heap rendering ref separator stack = some (text, stack) ∧
      Joins heap stack ref separator text := by
  by_cases around : ref ∈ stack
  case pos =>
    have entered : Rendering.enter ref stack = some (false, stack) := by
      simp [Rendering.enter, around]
    refine ⟨[], ?_, .again around⟩
    rw [joinOn, bind_eq_of_eq_some entered]
    rfl
  case neg =>
    have entered : Rendering.enter ref stack = some (true, ref :: stack) := by
      simp [Rendering.enter, around]
    -- The items leave the stack as they find it, so the list that is taken off is this one.
    obtain ⟨parts, mapped, all⟩ := mapM_renders (renders around)
    refine ⟨Text.join separator parts, ?_, .items around all⟩
    rw [joinOn, bind_eq_of_eq_some entered, if_pos rfl, bind_eq_of_eq_some mapped]
    rfl

/-- The fuel lasts as long as there are fewer lists left to enter. -/
theorem textOn_renders (enough : (unentered heap stack).length < fuel) (value : Value) :
    RendersOn heap (textOn heap fuel) stack value := by
  induction fuel generalizing stack value with
  | zero => cases enough
  | succ fuel ih =>
      cases value with
      | undefined => exact ⟨_, rfl, .undefined⟩
      | null => exact ⟨_, rfl, .null⟩
      | bool => exact ⟨_, rfl, .bool⟩
      | number => exact ⟨_, rfl, .number⟩
      | string => exact ⟨_, rfl, .string⟩
      | map => exact ⟨_, rfl, .map⟩
      | function => exact ⟨_, rfl, .function⟩
      | list ref =>
          have inside : ref ∉ stack → ∀ item ∈ heap.items ref,
              RendersOn heap (textOn heap fuel) (ref :: stack) item := fun new item member => by
            have fewer := length_unentered_cons new (Heap.given_of_mem_items member)
            exact ih (by omega) item
          obtain ⟨text, joined, joins⟩ := joinOn_renders inside
          exact ⟨text, joined, .list joins⟩

/-- Joining nests one list deeper than the items it renders. -/
theorem joinOn_textOn_renders (heap : Heap) (stack : List ListRef) (ref : ListRef)
    (separator : Text) (enough : heap.lists.size ≤ fuel) :
    ∃ text, joinOn heap (textOn heap fuel) ref separator stack = some (text, stack) ∧
      Joins heap stack ref separator text := by
  refine joinOn_renders fun new item member => textOn_renders ?_ item
  have fewer := length_unentered_cons new (Heap.given_of_mem_items member)
  have most := length_unentered_le heap stack
  omega

/-- With more fuel than there are lists, a value is rendered on any stack. -/
theorem textOn_renders_of_size_lt (heap : Heap) (stack : List ListRef) (value : Value)
    (enough : heap.lists.size < fuel) : RendersOn heap (textOn heap fuel) stack value :=
  textOn_renders (Nat.lt_of_le_of_lt (length_unentered_le heap stack) enough) value

/-! ### What a value is rendered as -/

/-- A value is rendered as one text inside any lists. -/
theorem existsUnique_renders (heap : Heap) (inside : List ListRef) (value : Value) :
    ∃! text, Renders heap inside value text := by
  obtain ⟨text, _, renders⟩ := textOn_renders_of_size_lt heap inside value (Nat.lt_succ_self _)
  exact ⟨text, renders, fun _ other => other.unique renders⟩

/-- The items of a list are joined to one text inside any lists. -/
theorem existsUnique_joins (heap : Heap) (inside : List ListRef) (ref : ListRef)
    (separator : Text) : ∃! text, Joins heap inside ref separator text := by
  obtain ⟨text, _, joins⟩ := joinOn_textOn_renders heap inside ref separator (Nat.le_refl _)
  exact ⟨text, joins, fun _ other => other.unique joins⟩

/-- The text of a value is what it is rendered as inside no list. -/
theorem renders_text (heap : Heap) (value : Value) : Renders heap [] value (value.text heap) := by
  obtain ⟨text, rendered, renders⟩ := textOn_renders_of_size_lt heap [] value (Nat.lt_succ_self _)
  rwa [Value.text, Rendering.fromOutside, rendered]

/-- The joined items of a list are what they are joined to inside no list. -/
theorem joins_joinItems (heap : Heap) (ref : ListRef) (separator : Text) :
    Joins heap [] ref separator (joinItems heap ref separator) := by
  obtain ⟨text, joined, joins⟩ := joinOn_textOn_renders heap [] ref separator (Nat.le_refl _)
  rwa [joinItems, Rendering.fromOutside, joined]

/-- A list that stands twice in another one is rendered with all its items in both places. -/
theorem Joins.side_by_side {outer inner : ListRef} {before between behind : List Value} {text : Text}
    (joins : Joins heap inside outer separator text) (outerNew : outer ∉ inside)
    (innerNew : inner ∉ outer :: inside)
    (twice : heap.items outer = before ++ .list inner :: (between ++ .list inner :: behind)) :
    ∃ former middle latter full,
      RendersItems heap (outer :: inside) before former ∧
      RendersItems heap (outer :: inside) between middle ∧
      RendersItems heap (outer :: inside) behind latter ∧
      RendersItems heap (inner :: outer :: inside) (heap.items inner) full ∧
      text = Text.join separator
        (former ++ Text.join [','] full :: (middle ++ Text.join [','] full :: latter)) := by
  cases joins with
  | again around => exact absurd around outerNew
  | items _ all =>
      rw [twice] at all
      obtain ⟨former, _, rfl, beforeAll, fromFirst⟩ := all.split
      obtain ⟨full, _, rfl, first, afterFirst⟩ := fromFirst.of_list innerNew
      obtain ⟨middle, _, rfl, betweenAll, fromSecond⟩ := afterFirst.split
      obtain ⟨fullToo, latter, rfl, second, behindAll⟩ := fromSecond.of_list innerNew
      cases first.unique second
      exact ⟨former, middle, latter, full, beforeAll, betweenAll, behindAll, first, rfl⟩

/-- Rendering ends on every heap and leaves the stack as it found it, however the lists contain each
other. It gives what a value is rendered as inside the lists of the stack, which is one text. So a
list that stands twice in another one is rendered with all its items both times, and rendering twice
gives the same text. -/
theorem rendering_balanced (heap : Heap) :
    (∀ inside value, ∃! text, Renders heap inside value text) ∧
    (∀ inside ref separator, ∃! text, Joins heap inside ref separator text) ∧
    (∀ fuel stack value, heap.lists.size < fuel → ∃ text,
      textOn heap fuel value stack = some (text, stack) ∧ Renders heap stack value text) ∧
    (∀ fuel stack ref separator, heap.lists.size ≤ fuel → ∃ text,
      joinOn heap (textOn heap fuel) ref separator stack = some (text, stack) ∧
        Joins heap stack ref separator text) ∧
    (∀ value, Renders heap [] value (value.text heap)) ∧
    (∀ ref separator, Joins heap [] ref separator (joinItems heap ref separator)) ∧
    (∀ inside outer inner separator before between behind text,
      Joins heap inside outer separator text → outer ∉ inside → inner ∉ outer :: inside →
      heap.items outer = before ++ .list inner :: (between ++ .list inner :: behind) →
      ∃ former middle latter full,
        RendersItems heap (outer :: inside) before former ∧
        RendersItems heap (outer :: inside) between middle ∧
        RendersItems heap (outer :: inside) behind latter ∧
        RendersItems heap (inner :: outer :: inside) (heap.items inner) full ∧
        text = Text.join separator
          (former ++ Text.join [','] full :: (middle ++ Text.join [','] full :: latter))) ∧
    (∀ fuel stack value, heap.lists.size < fuel → ∃ text,
      (do
        let first ← textOn heap fuel value
        let second ← textOn heap fuel value
        return (first, second) : Rendering (Text × Text)) stack = some ((text, text), stack)) := by
  refine ⟨existsUnique_renders heap, existsUnique_joins heap, ?rendered, ?joined, renders_text heap,
    joins_joinItems heap, ?sideBySide, ?twice⟩
  case rendered =>
    intro fuel stack value enough
    exact textOn_renders_of_size_lt heap stack value enough
  case joined =>
    intro fuel stack ref separator enough
    exact joinOn_textOn_renders heap stack ref separator enough
  case sideBySide =>
    intro inside outer inner separator before between behind text joins
    exact joins.side_by_side
  case twice =>
    intro fuel stack value enough
    obtain ⟨text, rendered, _⟩ := textOn_renders_of_size_lt heap stack value enough
    refine ⟨text, ?_⟩
    rw [bind_eq_of_eq_some rendered, bind_eq_of_eq_some rendered]
    rfl

/-- A list of itself and twice another one, which contains the first. -/
def knot : Heap where
  lists := #[[.bool true, .list ⟨0⟩, .list ⟨1⟩, .list ⟨1⟩], [.string "x", .null, .list ⟨0⟩]]
  maps := #[]
  functions := 0

/-- In the knot the first list is rendered without itself, and with the other one in full twice. -/
theorem rendering_balanced_knot :
    textOn knot 3 (.list ⟨0⟩) [] = some ("true,,x,,,x,,".toList, []) ∧
    Renders knot [] (.list ⟨0⟩) "true,,x,,,x,,".toList ∧
    Joins knot [⟨0⟩] ⟨1⟩ ['-'] "x--".toList ∧
    (∃ former middle latter full, RendersItems knot [⟨1⟩, ⟨0⟩] (knot.items ⟨1⟩) full ∧
      joinItems knot ⟨0⟩ ['-'] = Text.join ['-']
        (former ++ Text.join [','] full :: (middle ++ Text.join [','] full :: latter))) ∧
    (∃ text,
      (do
        let first ← textOn knot 3 (.list ⟨0⟩)
        let second ← textOn knot 3 (.list ⟨0⟩)
        return (first, second) : Rendering (Text × Text)) [⟨1⟩] = some ((text, text), [⟨1⟩])) := by
  obtain ⟨_, _, rendered, joined, _, joinedItems, sideBySide, twice⟩ := rendering_balanced knot
  have whole : textOn knot 3 (.list ⟨0⟩) [] = some ("true,,x,,,x,,".toList, []) := by
    decide +kernel
  have other : joinOn knot (textOn knot 2) ⟨1⟩ ['-'] [⟨0⟩] = some ("x--".toList, [⟨0⟩]) := by
    decide +kernel
  obtain ⟨text, given, renders⟩ := rendered 3 [] (.list ⟨0⟩) (by decide)
  obtain rfl : text = "true,,x,,,x,,".toList := by simpa [given] using whole
  obtain ⟨joinedText, given, joins⟩ := joined 2 [⟨0⟩] ⟨1⟩ ['-'] (by decide)
  obtain rfl : joinedText = "x--".toList := by simpa [given] using other
  obtain ⟨former, middle, latter, full, _, _, _, all, joinedAll⟩ :=
    sideBySide [] ⟨0⟩ ⟨1⟩ ['-'] [.bool true, .list ⟨0⟩] [] [] _ (joinedItems ⟨0⟩ ['-']) (by decide)
      (by decide) rfl
  exact ⟨whole, renders, joins, ⟨former, middle, latter, full, all, joinedAll⟩,
    twice 3 [⟨1⟩] (.list ⟨0⟩) (by decide)⟩

end Parlance.Value
