import Parlance.Proofs.Arithmetic.Matching
import Parlance.Proofs.Arithmetic.Soundness

/-!
# Windows

The passes can be read as one table. A reduction looks at an item of the work list and at those next
to it. If it accepts them, it takes some of them out of the list and puts what it builds from them in
their place. So there are three columns: what a reduction accepts, what it takes out, and what it
builds. They agree on every work list. What is accepted can be taken out, and it can be built from.
-/

namespace Parlance.Arithmetic

/-- A way to reduce the items around a place of a work list. -/
inductive Reduction where
  | literal
  | symbol
  | group
  | member
  | call
  | index
  | step
  | unary
  | binary (level : List BinaryOperator)
  | branches
  | ternary

/-- Which items are taken out around the one at hand. -/
inductive Splice where
  | here
  | hereAndAfter
  | beforeAndHere
  | beforeToAfter

namespace Splice

/-- The place of the first item that is taken out. -/
def first (splice : Splice) (place : Nat) : Nat :=
  match splice with
  | here | hereAndAfter => place
  | beforeAndHere | beforeToAfter => place - 1

/-- The place of the last item that is taken out. -/
def last (splice : Splice) (place : Nat) : Nat :=
  match splice with
  | here | beforeAndHere => place
  | hereAndAfter | beforeToAfter => place + 1

/-- How many items are taken out in front of the one at hand. -/
def offset : Splice → Nat
  | here | hereAndAfter => 0
  | beforeAndHere | beforeToAfter => 1

/-- How many items are taken out. -/
def size : Splice → Nat
  | here => 1
  | hereAndAfter | beforeAndHere => 2
  | beforeToAfter => 3

end Splice

namespace Item

/-- Whether the item is a token of the named term. -/
def isTokenOf (name : String) (item : Item) : Bool := (item.token? name).isSome

/-- Whether the item is a group of the named term. -/
def isGroupOf (name : String) (item : Item) : Bool := (item.group? name).isSome

/-- Whether the item writes an operator of the level. -/
def isOperatorOf (level : List BinaryOperator) (item : Item) : Bool :=
  item.symbol?.any fun symbol => (level.map BinaryOperator.symbol).contains symbol

end Item

/-- The item before the place. -/
def itemBefore? (items : List Item) : (place : Nat) → Option Item
  | 0 => none
  | place + 1 => items[place]?

/-- The expression of an operator that is looked up by its symbol. -/
def applied (node : Node) (left right : Expr) : Except CompileError Expr :=
  match BinaryOperator.ofSymbolAmong? BinaryOperator.all (String.ofList (textOf node)) with
  | some operator =>
      .ok (.binary (Origin.spanning node.name left.origin right.origin) operator left right)
  | none => .error (.unknownOperator (textOf node) node.position)

/-- The value of a literal, by the name of its term. -/
def literalOf (node : Node) : Except CompileError Expr :=
  let origin := originOf node
  match node.name with
  | "number" =>
      match readNumber? (textOf node) with
      | some value => .ok (.literal origin (.number value))
      | none => .error (.invalidLiteral (textOf node) node.position)
  | "string" =>
      match readString? (textOf node) with
      | some text => .ok (.literal origin (.string (String.ofList text)))
      | none => .error (.invalidLiteral (textOf node) node.position)
  | _ => .error (.invalidLiteral (textOf node) node.position)

namespace Reduction

/-- Whether the reduction accepts the list at the place. Branches are accepted if the question mark
that the colon closes stands right before the operand between them. -/
def accepts (reduction : Reduction) (items : List Item) (place : Nat) : Bool :=
  let before := itemBefore? items place
  let here := items[place]?
  let after := items[place + 1]?
  match reduction with
  | literal => here.any (·.isTokenOf "number") || here.any (·.isTokenOf "string")
  | symbol => here.any (·.isTokenOf "identifier")
  | group => here.any (·.isGroupOf "paren")
  | member =>
      before.any (·.isExpr) && here.any (·.isTokenOf "dot") && after.any (·.isTokenOf "property")
  | call => before.any (·.isExpr) && here.any (·.isGroupOf "call")
  | index => before.any (·.isExpr) && here.any (·.isGroupOf "index")
  | step => before.any (·.isExpr) && here.any (·.isTokenOf "postfix")
  | unary => here.any (·.isTokenOf "prefix") && after.any (·.isExpr)
  | binary level =>
      before.any (·.isExpr) && here.any (·.isOperatorOf level) && after.any (·.isExpr)
  | branches =>
      before.any (·.isExpr) && here.any (·.isColon) && after.any (·.isExpr) &&
        (matchingQuestion items place).any fun question => question + 2 == place
  | ternary => before.any (·.isExpr) && here.any (·.isQuestion) && after.any (·.isBranches)

/-- Which items the reduction takes out. -/
def splice : Reduction → Splice
  | literal | symbol | group => .here
  | unary => .hereAndAfter
  | call | index | step => .beforeAndHere
  | member | binary _ | branches | ternary => .beforeToAfter

/-- What the reduction builds from the items that it has taken out, if they have the shape that it
expects. -/
def build? : Reduction → List Item → Option (Except CompileError Item)
  | literal, [.raw node _] => some ((literalOf node).map .expr)
  | symbol, [.raw node _] =>
      some (.ok (.expr (.symbol (originOf node) (String.ofList (textOf node)))))
  | group, [.raw node inside] => some (inside.map fun expr => .expr (expr.wrap (originOf node)))
  | member, [.expr object, .raw dot _, .raw property _] =>
      some (.ok (.expr (memberOf object dot property)))
  | call, [.expr callee, .raw node inside] => some ((callOf callee node inside).map .expr)
  | index, [.expr object, .raw node inside] => some ((indexOf object node inside).map .expr)
  | step, [.expr operand, .raw node _] => some ((stepOf operand node).map .expr)
  | unary, [.raw node _, .expr operand] => some ((unaryOf node operand).map .expr)
  | binary _, [.expr left, .raw node _, .expr right] => some ((applied node left right).map .expr)
  | branches, [.expr truthy, .raw colon _, .expr falsy] =>
      some (.ok (.branches truthy falsy (Origin.spanning colon.name truthy.origin falsy.origin)))
  | ternary, [.expr condition, .raw question _, .branches truthy falsy origin] =>
      some (.ok (.expr (.ternary (Origin.spanning question.name condition.origin origin) condition
        truthy falsy)))
  | _, _ => none

/-- What the reduction builds. It fails if the items are too few or too many, or of another shape. -/
def build (reduction : Reduction) (taken : List Item) : Except CompileError Item :=
  match reduction.build? taken with
  | some outcome => outcome
  | none =>
      let position := (taken.head?.map Item.position).getD 0
      .error (.unreduced position
        (if taken.length = reduction.splice.size then 0 else taken.length))

/-- The items that the reduction takes out around the place. -/
def taken (reduction : Reduction) (items : List Item) (place : Nat) : List Item :=
  (items.take (reduction.splice.last place + 1)).drop (reduction.splice.first place)

/-- The list with an item where the reduction takes others out. -/
def replaced (reduction : Reduction) (items : List Item) (place : Nat) (made : Item) :
    List Item :=
  items.take (reduction.splice.first place) ++ made ::
    items.drop (reduction.splice.last place + 1)

/-- Behind the items on its left, the window has the shape that the reduction expects. -/
inductive Fits (left : List Item) : Reduction → List Item → Prop where
  | literal {node inside} (named : node.IsTokenOf "number" ∨ node.IsTokenOf "string") :
      Fits left .literal [.raw node inside]
  | symbol {node inside} (named : node.IsTokenOf "identifier") :
      Fits left .symbol [.raw node inside]
  | group {node inside} (named : node.IsGroupOf "paren") : Fits left .group [.raw node inside]
  | member {object dot insideDot property insideProperty} (dotted : dot.IsTokenOf "dot")
      (named : property.IsTokenOf "property") :
      Fits left .member [.expr object, .raw dot insideDot, .raw property insideProperty]
  | call {callee node inside} (named : node.IsGroupOf "call") :
      Fits left .call [.expr callee, .raw node inside]
  | index {object node inside} (named : node.IsGroupOf "index") :
      Fits left .index [.expr object, .raw node inside]
  | step {operand node inside} (named : node.IsTokenOf "postfix") :
      Fits left .step [.expr operand, .raw node inside]
  | unary {node inside operand} (named : node.IsTokenOf "prefix") :
      Fits left .unary [.raw node inside, .expr operand]
  | binary {level operator former node inside latter} (among : operator ∈ level)
      (writes : node.WritesBetween operator.symbol) :
      Fits left (.binary level) [.expr former, .raw node inside, .expr latter]
  | branches {others question truthy colon inside falsy} (before : left = others ++ [question])
      (opens : question.isQuestion = true) (closes : colon.WritesBetween ":") :
      Fits left .branches [.expr truthy, .raw colon inside, .expr falsy]
  | ternary {condition question inside truthy falsy origin} (opens : question.WritesBetween "?") :
      Fits left .ternary
        [.expr condition, .raw question inside, .branches truthy falsy origin]

end Reduction

/-! ### Places in a list -/

section Places

variable {α : Type} {items : List α} {place : Nat} {first second third : α}

theorem exists_around (here : items[place]? = some first) :
    ∃ left right, items = left ++ first :: right ∧ left.length = place := by
  obtain ⟨within, rfl⟩ := List.getElem?_eq_some_iff.1 here
  refine ⟨items.take place, items.drop (place + 1), ?_, by simp; omega⟩
  rw [← List.drop_eq_getElem_cons, List.take_append_drop]

theorem exists_around_two (here : items[place]? = some first)
    (after : items[place + 1]? = some second) :
    ∃ left right, items = left ++ first :: second :: right ∧ left.length = place := by
  obtain ⟨left, right, rfl, rfl⟩ := exists_around here
  rw [List.getElem?_append_right (by omega)] at after
  cases right with
  | nil => simp at after
  | cons next right =>
      obtain rfl : next = second := by simpa using after
      exact ⟨left, right, rfl, rfl⟩

theorem exists_around_three (here : items[place]? = some first)
    (after : items[place + 1]? = some second) (last : items[place + 2]? = some third) :
    ∃ left right, items = left ++ first :: second :: third :: right ∧ left.length = place := by
  obtain ⟨left, right, rfl, rfl⟩ := exists_around_two here after
  rw [List.getElem?_append_right (by omega)] at last
  cases right with
  | nil => simp at last
  | cons next right =>
      obtain rfl : next = third := by simpa using last
      exact ⟨left, right, rfl, rfl⟩

theorem getElem?_after_two (left right : List α) :
    (left ++ first :: second :: third :: right)[left.length + 1 + 1]? = some third := by
  rw [Nat.add_assoc, List.getElem?_append_right (Nat.le_add_right _ _), Nat.add_sub_cancel_left]
  rfl

end Places

/-! ### What the tests say -/

namespace Item

variable {item : Item} {name : String}

theorem isExpr_iff : item.isExpr = true ↔ ∃ made, item = expr made := by
  cases item <;> simp [isExpr]

theorem isBranches_iff :
    item.isBranches = true ↔ ∃ truthy falsy origin, item = branches truthy falsy origin := by
  cases item <;> simp [isBranches]

theorem isTokenOf_iff :
    item.isTokenOf name = true ↔ ∃ node inside, item = raw node inside ∧ node.IsTokenOf name := by
  rw [isTokenOf, Option.isSome_iff_exists]
  simp only [token?_eq_some_iff]
  constructor
  · rintro ⟨node, named, inside, same⟩
    exact ⟨node, inside, same, named⟩
  · rintro ⟨node, inside, same, named⟩
    exact ⟨node, named, inside, same⟩

theorem isGroupOf_iff :
    item.isGroupOf name = true ↔ ∃ node inside, item = raw node inside ∧ node.IsGroupOf name := by
  rw [isGroupOf, Option.isSome_iff_exists]
  simp only [Prod.exists, group?_eq_some_iff]
  constructor
  · rintro ⟨node, inside, named, same⟩
    exact ⟨node, inside, same, named⟩
  · rintro ⟨node, inside, same, named⟩
    exact ⟨node, inside, named, same⟩

theorem isColon_iff :
    item.isColon = true ↔ ∃ node inside, item = raw node inside ∧ node.WritesBetween ":" := by
  rw [isColon, beq_iff_eq, symbol?_eq_some_iff]

theorem isQuestion_iff :
    item.isQuestion = true ↔ ∃ node inside, item = raw node inside ∧ node.WritesBetween "?" := by
  rw [isQuestion, beq_iff_eq, symbol?_eq_some_iff]

theorem isOperatorOf_iff {level : List BinaryOperator} :
    item.isOperatorOf level = true ↔ ∃ node inside operator, item = raw node inside ∧
      operator ∈ level ∧ node.WritesBetween operator.symbol := by
  rw [isOperatorOf, Option.any_eq_true]
  simp only [symbol?_eq_some_iff, List.contains_eq_mem, decide_eq_true_eq, List.mem_map]
  constructor
  · rintro ⟨_, ⟨node, inside, same, writes⟩, operator, among, rfl⟩
    exact ⟨node, inside, operator, same, among, writes⟩
  · rintro ⟨node, inside, operator, same, among, writes⟩
    exact ⟨_, ⟨node, inside, same, writes⟩, operator, among, rfl⟩

variable {node : Node} {inside : Except CompileError Expr}

theorem isTokenOf_raw (named : node.IsTokenOf name) : (raw node inside).isTokenOf name = true :=
  isTokenOf_iff.2 ⟨node, inside, rfl, named⟩

theorem isGroupOf_raw (named : node.IsGroupOf name) : (raw node inside).isGroupOf name = true :=
  isGroupOf_iff.2 ⟨node, inside, rfl, named⟩

theorem isColon_raw (closes : node.WritesBetween ":") : (raw node inside).isColon = true :=
  isColon_iff.2 ⟨node, inside, rfl, closes⟩

theorem isQuestion_raw (opens : node.WritesBetween "?") : (raw node inside).isQuestion = true :=
  isQuestion_iff.2 ⟨node, inside, rfl, opens⟩

theorem isOperatorOf_raw {level : List BinaryOperator} {operator : BinaryOperator}
    (among : operator ∈ level) (writes : node.WritesBetween operator.symbol) :
    (raw node inside).isOperatorOf level = true :=
  isOperatorOf_iff.2 ⟨node, inside, operator, rfl, among, writes⟩

end Item

variable {items left right window : List Item} {item : Item} {value : Expr} {place : Nat}

/-- The colon behind an operand closes the question mark two places before it exactly if that
stands right before the operand. -/
theorem matchingQuestion_iff :
    ((matchingQuestion (left ++ .expr value :: right) (left.length + 1)).any fun question =>
        question + 2 == left.length + 1) = true ↔
      ∃ question ∈ left.getLast?, question.isQuestion = true := by
  have before : (left ++ .expr value :: right).take (left.length + 1) = left ++ [.expr value] := by
    rw [List.take_length_add_append, List.take_succ_cons, List.take_zero]
  rw [matchingQuestion, before, List.reverse_append, List.reverse_singleton,
    List.singleton_append, openQuestion_cons_expr, ← List.head?_reverse, ← openQuestion_eq_zero_iff]
  cases found : openQuestion 0 left.reverse with
  | none => simp
  | some between =>
      have within := (openQuestion_eq_some_iff.1 found).lt_length
      rw [List.length_reverse] at within
      simp only [Option.map_some, Option.any_some, beq_iff_eq, Option.some.injEq,
        List.length_append, List.length_singleton]
      omega

/-! ### The columns agree -/

namespace Reduction

variable {reduction : Reduction} {former latter : Item}

/-- Around the place stands a window with the shape that the reduction expects. -/
def FitsAt (reduction : Reduction) (items : List Item) (place : Nat) : Prop :=
  ∃ left window right, items = left ++ window ++ right ∧
    place = left.length + reduction.splice.offset ∧ reduction.Fits left window

section

variable (here : items[place]? = some item)

include here

theorem fitsAt_here (spliced : reduction.splice = .here)
    (fits : ∀ left, reduction.Fits left [item]) : reduction.FitsAt items place := by
  obtain ⟨left, right, rfl, rfl⟩ := exists_around here
  exact ⟨left, [item], right, by simp, by rw [spliced]; rfl, fits left⟩

theorem fitsAt_hereAndAfter (after : items[place + 1]? = some latter)
    (spliced : reduction.splice = .hereAndAfter)
    (fits : ∀ left, reduction.Fits left [item, latter]) : reduction.FitsAt items place := by
  obtain ⟨left, right, rfl, rfl⟩ := exists_around_two here after
  exact ⟨left, [item, latter], right, by simp, by rw [spliced]; rfl, fits left⟩

theorem fitsAt_beforeAndHere (before : itemBefore? items place = some former)
    (spliced : reduction.splice = .beforeAndHere)
    (fits : ∀ left, reduction.Fits left [former, item]) : reduction.FitsAt items place := by
  cases place with
  | zero => cases before
  | succ place =>
      obtain ⟨left, right, rfl, rfl⟩ := exists_around_two before here
      exact ⟨left, [former, item], right, by simp, by rw [spliced]; rfl, fits left⟩

theorem fitsAt_beforeToAfter (before : itemBefore? items place = some former)
    (after : items[place + 1]? = some latter) (spliced : reduction.splice = .beforeToAfter)
    (fits : ∀ left right, items = left ++ former :: item :: latter :: right →
      place = left.length + 1 → reduction.Fits left [former, item, latter]) :
    reduction.FitsAt items place := by
  cases place with
  | zero => cases before
  | succ place =>
      obtain ⟨left, right, rfl, rfl⟩ := exists_around_three before here after
      exact ⟨left, [former, item, latter], right, by simp, by rw [spliced]; rfl,
        fits left right rfl rfl⟩

end

/-- Around a place that a reduction accepts, the window has the shape that it expects. -/
theorem fitsAt_of_accepts (accepted : reduction.accepts items place = true) :
    reduction.FitsAt items place := by
  cases reduction with
  | literal =>
      simp only [accepts, Bool.or_eq_true, Option.any_eq_true, Item.isTokenOf_iff] at accepted
      obtain ⟨_, here, node, inside, rfl, named⟩ | ⟨_, here, node, inside, rfl, named⟩ := accepted
      · exact fitsAt_here here rfl fun _ => .literal (.inl named)
      · exact fitsAt_here here rfl fun _ => .literal (.inr named)
  | symbol =>
      simp only [accepts, Option.any_eq_true, Item.isTokenOf_iff] at accepted
      obtain ⟨_, here, node, inside, rfl, named⟩ := accepted
      exact fitsAt_here here rfl fun _ => .symbol named
  | group =>
      simp only [accepts, Option.any_eq_true, Item.isGroupOf_iff] at accepted
      obtain ⟨_, here, node, inside, rfl, named⟩ := accepted
      exact fitsAt_here here rfl fun _ => .group named
  | member =>
      simp only [accepts, Bool.and_eq_true, Option.any_eq_true, Item.isExpr_iff,
        Item.isTokenOf_iff] at accepted
      obtain ⟨⟨⟨_, before, object, rfl⟩, _, here, dot, _, rfl, dotted⟩, _, after, property, _, rfl,
        named⟩ := accepted
      exact fitsAt_beforeToAfter here before after rfl fun _ _ _ _ => .member dotted named
  | call =>
      simp only [accepts, Bool.and_eq_true, Option.any_eq_true, Item.isExpr_iff,
        Item.isGroupOf_iff] at accepted
      obtain ⟨⟨_, before, callee, rfl⟩, _, here, node, inside, rfl, named⟩ := accepted
      exact fitsAt_beforeAndHere here before rfl fun _ => .call named
  | index =>
      simp only [accepts, Bool.and_eq_true, Option.any_eq_true, Item.isExpr_iff,
        Item.isGroupOf_iff] at accepted
      obtain ⟨⟨_, before, object, rfl⟩, _, here, node, inside, rfl, named⟩ := accepted
      exact fitsAt_beforeAndHere here before rfl fun _ => .index named
  | step =>
      simp only [accepts, Bool.and_eq_true, Option.any_eq_true, Item.isExpr_iff,
        Item.isTokenOf_iff] at accepted
      obtain ⟨⟨_, before, operand, rfl⟩, _, here, node, inside, rfl, named⟩ := accepted
      exact fitsAt_beforeAndHere here before rfl fun _ => .step named
  | unary =>
      simp only [accepts, Bool.and_eq_true, Option.any_eq_true, Item.isExpr_iff,
        Item.isTokenOf_iff] at accepted
      obtain ⟨⟨_, here, node, inside, rfl, named⟩, _, after, operand, rfl⟩ := accepted
      exact fitsAt_hereAndAfter here after rfl fun _ => .unary named
  | binary level =>
      simp only [accepts, Bool.and_eq_true, Option.any_eq_true, Item.isExpr_iff,
        Item.isOperatorOf_iff] at accepted
      obtain ⟨⟨⟨_, before, left, rfl⟩, _, here, node, inside, operator, rfl, among, writes⟩, _, after,
        right, rfl⟩ := accepted
      exact fitsAt_beforeToAfter here before after rfl fun _ _ _ _ => .binary among writes
  | branches =>
      simp only [accepts, Bool.and_eq_true] at accepted
      obtain ⟨⟨⟨isBefore, isHere⟩, isAfter⟩, closesNearest⟩ := accepted
      simp only [Option.any_eq_true, Item.isExpr_iff, Item.isColon_iff] at isBefore isHere isAfter
      obtain ⟨_, before, truthy, rfl⟩ := isBefore
      obtain ⟨_, here, colon, inside, rfl, closes⟩ := isHere
      obtain ⟨_, after, falsy, rfl⟩ := isAfter
      refine fitsAt_beforeToAfter here before after rfl ?_
      rintro left right rfl rfl
      obtain ⟨question, last, opens⟩ := matchingQuestion_iff.1 closesNearest
      obtain ⟨others, rfl⟩ := List.getLast?_eq_some_iff.1 last
      exact .branches rfl opens closes
  | ternary =>
      simp only [accepts, Bool.and_eq_true, Option.any_eq_true, Item.isExpr_iff, Item.isQuestion_iff,
        Item.isBranches_iff] at accepted
      obtain ⟨⟨⟨_, before, condition, rfl⟩, _, here, question, inside, rfl, opens⟩, _, after, truthy,
        falsy, origin, rfl⟩ := accepted
      exact fitsAt_beforeToAfter here before after rfl fun _ _ _ _ => .ternary opens

/-- A window with the shape that a reduction expects is accepted. -/
theorem Fits.accepts (fits : reduction.Fits left window) (right : List Item) :
    reduction.accepts (left ++ window ++ right) (left.length + reduction.splice.offset) = true := by
  cases fits with
  | literal named =>
      rcases named with named | named
      · simp [Reduction.accepts, splice, Splice.offset, Item.isTokenOf_raw named]
      · simp [Reduction.accepts, splice, Splice.offset, Item.isTokenOf_raw named]
  | symbol named => simp [Reduction.accepts, splice, Splice.offset, Item.isTokenOf_raw named]
  | group named => simp [Reduction.accepts, splice, Splice.offset, Item.isGroupOf_raw named]
  | member dotted named =>
      simp [Reduction.accepts, splice, Splice.offset, itemBefore?, getElem?_after_two, Item.isExpr,
        Item.isTokenOf_raw dotted, Item.isTokenOf_raw named]
  | call named =>
      simp [Reduction.accepts, splice, Splice.offset, itemBefore?, Item.isExpr,
        Item.isGroupOf_raw named]
  | index named =>
      simp [Reduction.accepts, splice, Splice.offset, itemBefore?, Item.isExpr,
        Item.isGroupOf_raw named]
  | step named =>
      simp [Reduction.accepts, splice, Splice.offset, itemBefore?, Item.isExpr,
        Item.isTokenOf_raw named]
  | unary named =>
      simp [Reduction.accepts, splice, Splice.offset, Item.isExpr, Item.isTokenOf_raw named]
  | binary among writes =>
      simp [Reduction.accepts, splice, Splice.offset, itemBefore?, getElem?_after_two, Item.isExpr,
        Item.isOperatorOf_raw among writes]
  | @branches others question truthy colon inside falsy before opens closes =>
      have closesNearest := (@matchingQuestion_iff left
        (.raw colon inside :: .expr falsy :: right) truthy).2 ⟨question, by simp [before], opens⟩
      simpa [Reduction.accepts, splice, Splice.offset, itemBefore?, getElem?_after_two, Item.isExpr,
        Item.isColon_raw closes] using closesNearest
  | ternary opens =>
      simp [Reduction.accepts, splice, Splice.offset, itemBefore?, getElem?_after_two, Item.isExpr,
        Item.isBranches, Item.isQuestion_raw opens]

theorem Fits.length_eq (fits : reduction.Fits left window) :
    window.length = reduction.splice.size := by
  cases fits <;> rfl

/-- What has the shape that a reduction expects can be built from. -/
theorem Fits.exists_build? (fits : reduction.Fits left window) :
    ∃ outcome, reduction.build? window = some outcome := by
  cases fits <;> exact ⟨_, rfl⟩

/-- The places that are taken out are those of the window. -/
theorem Fits.spliced (fits : reduction.Fits left window) :
    reduction.splice.first (left.length + reduction.splice.offset) = left.length ∧
      reduction.splice.last (left.length + reduction.splice.offset) + 1 =
        left.length + window.length := by
  rw [fits.length_eq]
  cases reduction.splice <;> simp [Splice.first, Splice.last, Splice.offset, Splice.size]

theorem Fits.taken_eq (fits : reduction.Fits left window) (right : List Item) :
    reduction.taken (left ++ window ++ right) (left.length + reduction.splice.offset) = window := by
  obtain ⟨first, last⟩ := fits.spliced
  rw [taken, first, last, ← List.length_append, List.take_left', List.drop_left'] <;> rfl

theorem Fits.replaced_eq (fits : reduction.Fits left window) (right : List Item) (made : Item) :
    reduction.replaced (left ++ window ++ right) (left.length + reduction.splice.offset) made =
      left ++ made :: right := by
  obtain ⟨first, last⟩ := fits.spliced
  rw [replaced, first, last, ← List.length_append, List.drop_left' rfl, List.append_assoc,
    List.take_left' rfl]

/-- Whatever a reduction accepts lies within the list and has the shape that it builds from. -/
theorem within_of_accepts (accepted : reduction.accepts items place = true) :
    reduction.splice.last place < items.length ∧
      (reduction.taken items place).length = reduction.splice.size ∧
      ∃ outcome, reduction.build? (reduction.taken items place) = some outcome := by
  obtain ⟨left, window, right, rfl, rfl, fits⟩ := fitsAt_of_accepts accepted
  obtain ⟨_, last⟩ := fits.spliced
  refine ⟨?_, ?_, ?_⟩
  · simp only [List.length_append]
    omega
  · rw [fits.taken_eq, fits.length_eq]
  · rw [fits.taken_eq]
    exact fits.exists_build?

end Reduction

end Parlance.Arithmetic
