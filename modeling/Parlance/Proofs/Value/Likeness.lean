import Mathlib.Data.List.Forall2
import Parlance.Proofs.Value.Heap
import Parlance.Value.Operation

/-!
# Heaps that look alike

Two heaps look alike if whatever can be seen in one of them can be seen in the other, where maps may
have other handles. What the operators make of values depends only on what can be seen: values that
correspond to each other have the same text and number on heaps that look alike, and give values that
correspond to each other.
-/

namespace Parlance

/-- The same value, or two maps that are linked. -/
inductive Value.Corresponds (linked : MapRef → MapRef → Prop) : Value → Value → Prop where
  | same {value : Value} (noMap : ∀ ref, value ≠ .map ref) : Corresponds linked value value
  | map {ref other : MapRef} (link : linked ref other) : Corresponds linked (.map ref) (.map other)

/-- When two heaps look alike, and which of their maps are linked to each other. Linked maps and
lists of one handle have entries and items that correspond to each other, and they still do when
both heaps are changed in the same way. -/
structure Likeness where
  Linked : MapRef → MapRef → Prop
  Alike : Heap → Heap → Prop
  oneToOne : ∀ {first second other another}, Linked first other → Linked second another →
    (first = second ↔ other = another)
  lists : ∀ {former latter}, Alike former latter → former.lists.size = latter.lists.size
  functions : ∀ {former latter}, Alike former latter → former.functions = latter.functions
  items : ∀ {former latter}, Alike former latter → ∀ ref,
    List.Forall₂ (Value.Corresponds Linked) (former.items ref) (latter.items ref)
  entry : ∀ {former latter}, Alike former latter → ∀ {ref other}, Linked ref other → ∀ name,
    Option.Rel (Value.Corresponds Linked) (former.get? ref name) (latter.get? other name)
  setItems : ∀ {former latter}, Alike former latter → ∀ {items others},
    List.Forall₂ (Value.Corresponds Linked) items others → ∀ ref,
    Alike (former.setItems ref items) (latter.setItems ref others)
  insert : ∀ {former latter}, Alike former latter → ∀ {ref other}, Linked ref other →
    ∀ {value another}, Value.Corresponds Linked value another → ∀ name,
    Alike (former.insert ref name value) (latter.insert other name another)
  newList : ∀ {former latter}, Alike former latter → ∀ {items others},
    List.Forall₂ (Value.Corresponds Linked) items others →
    Alike (former.newList items).2 (latter.newList others).2
  newFunction : ∀ {former latter}, Alike former latter → ∀ name code,
    Alike (former.newFunction name code).2 (latter.newFunction name code).2

namespace Likeness

/-- The values correspond to each other. -/
abbrev Same (likeness : Likeness) : Value → Value → Prop := Value.Corresponds likeness.Linked

/-- The values correspond to each other one by one. -/
abbrev AllSame (likeness : Likeness) : List Value → List Value → Prop :=
  List.Forall₂ likeness.Same

variable {likeness : Likeness} {former latter : Heap} {value other first second another : Value}
  {values others : List Value}

theorem same_plain (likeness : Likeness) (plain : value.isObject = false) :
    likeness.Same value value := by
  refine .same ?_
  rintro ref rfl
  cases plain

theorem same_function (likeness : Likeness) (function : Function) :
    likeness.Same (.function function) (.function function) :=
  .same (by simp)

theorem same_list (likeness : Likeness) (ref : ListRef) : likeness.Same (.list ref) (.list ref) :=
  .same (by simp)

theorem allSame_plain (likeness : Likeness) (plain : ∀ value ∈ values, value.isObject = false) :
    likeness.AllSame values values :=
  List.forall₂_same.2 fun value member => likeness.same_plain (plain value member)

/-! ### What can be seen in a value -/

section

variable (same : likeness.Same value other)
include same

theorem isObject_eq : value.isObject = other.isObject := by
  cases same <;> rfl

theorem isNullish_eq : value.isNullish = other.isNullish := by
  cases same <;> rfl

theorem isBool_eq : value.isBool = other.isBool := by
  cases same <;> rfl

theorem isTruthy_eq : value.isTruthy = other.isTruthy := by
  cases same <;> rfl

theorem joinsTexts_eq : value.joinsTexts = other.joinsTexts := by
  cases same <;> rfl

end

/-- Identity is the same for the values that correspond to two values. -/
theorem identical_eq (left : likeness.Same value other) (right : likeness.Same first second) :
    value.identical first = other.identical second := by
  cases left with
  | same noMap =>
      cases right with
      | same _ => rfl
      | map _ => cases value <;> first | rfl | exact absurd rfl (noMap _)
  | map link =>
      cases right with
      | same noMap => cases first <;> first | rfl | exact absurd rfl (noMap _)
      | map linkToo =>
          rw [Value.identical, Value.identical, Bool.eq_iff_iff, beq_iff_eq, beq_iff_eq]
          exact likeness.oneToOne link linkToo

/-- What can be seen in each of the values is the same. -/
theorem map_eq {β : Type} {look lookOther : Value → β} (all : likeness.AllSame values others)
    (looks : ∀ value other, likeness.Same value other → look value = lookOther other) :
    values.map look = others.map lookOther := by
  rw [← List.forall₂_eq_eq_eq, List.forall₂_map_left_iff, List.forall₂_map_right_iff]
  exact all.imp looks

theorem findIdx?_eq {test testOther : Value → Bool} (all : likeness.AllSame values others)
    (tests : ∀ value other, likeness.Same value other → test value = testOther other) :
    values.findIdx? test = others.findIdx? testOther := by
  have mapped := congrArg (List.findIdx? id) (map_eq all tests)
  rwa [List.findIdx?_map, List.findIdx?_map] at mapped

theorem any_eq {test testOther : Value → Bool} (all : likeness.AllSame values others)
    (tests : ∀ value other, likeness.Same value other → test value = testOther other) :
    values.any test = others.any testOther := by
  have mapped := congrArg (List.any · id) (map_eq all tests)
  rwa [List.any_map, List.any_map] at mapped

theorem mapM_eq {m : Type → Type} [Monad m] [LawfulMonad m] {β : Type} {step stepOther : Value → m β}
    (all : likeness.AllSame values others)
    (steps : ∀ value other, likeness.Same value other → step value = stepOther other) :
    values.mapM step = others.mapM stepOther := by
  induction all with
  | nil => rfl
  | cons same _ ih => rw [List.mapM_cons, List.mapM_cons, steps _ _ same, ih]

/-! ### Lists of values -/

theorem rel_getElem? (all : likeness.AllSame values others) (index : Nat) :
    Option.Rel likeness.Same values[index]? others[index]? := by
  induction all generalizing index with
  | nil => exact .none
  | cons same _ ih =>
      cases index with
      | zero => exact .some same
      | succ index => exact ih index

theorem same_getD {found foundOther : Option Value}
    (rel : Option.Rel likeness.Same found foundOther) :
    likeness.Same (found.getD .undefined) (foundOther.getD .undefined) := by
  cases rel with
  | some same => exact same
  | none => exact likeness.same_plain rfl

theorem allSame_set (all : likeness.AllSame values others) (index : Nat)
    (same : likeness.Same value other) :
    likeness.AllSame (values.set index value) (others.set index other) := by
  induction all generalizing index with
  | nil => exact .nil
  | cons first rest ih =>
      cases index with
      | zero => exact .cons same rest
      | succ index => exact .cons first (ih index)

theorem allSame_append {items otherItems : List Value} (all : likeness.AllSame values others)
    (more : likeness.AllSame items otherItems) :
    likeness.AllSame (values ++ items) (others ++ otherItems) :=
  List.rel_append all more

/-- Comparing scalars never looks at a heap. -/
theorem scalarEquals_eq (former latter : Heap) (left : likeness.Same value other)
    (right : likeness.Same first second) :
    value.scalarEquals former first = other.scalarEquals latter second := by
  cases left with
  | same _ =>
      cases right with
      | same _ => cases value <;> cases first <;> rfl
      | map _ => cases value <;> rfl
  | map _ =>
      cases right with
      | same _ => cases first <;> rfl
      | map _ => rfl

theorem plainEquals_eq (former latter : Heap) (left : likeness.Same value other)
    (right : likeness.Same first second) :
    value.plainEquals former first = other.plainEquals latter second := by
  rw [Value.plainEquals, Value.plainEquals, isNullish_eq left, isNullish_eq right, isObject_eq left,
    isObject_eq right, identical_eq left right, scalarEquals_eq former latter left right]

theorem same_numberOfBool (same : likeness.Same value other) :
    likeness.Same value.numberOfBool other.numberOfBool := by
  cases same with
  | same noMap => cases value <;> exact .same (by simp_all [Value.numberOfBool])
  | map link => exact .map link

/-! ### Texts and numbers -/

section

variable (alike : likeness.Alike former latter)
include alike

/-- Items that correspond to each other are joined to the same text, if the texts of values are the
same. -/
theorem joinOn_eq {text textOther : Value → Rendering Text}
    (texts : ∀ {value other}, likeness.Same value other → text value = textOther other)
    (ref : ListRef) (separator : Text) :
    Value.joinOn former text ref separator = Value.joinOn latter textOther ref separator := by
  have parts : ((former.items ref).mapM fun item =>
        if item.isNullish then return [] else text item) =
      (latter.items ref).mapM fun item => if item.isNullish then return [] else textOther item :=
    mapM_eq (likeness.items alike ref) fun item otherItem same => by
      rw [isNullish_eq same, texts same]
  rw [Value.joinOn, Value.joinOn, parts]

/-- Rendering goes through the same lists on both heaps. -/
theorem textOn_eq (fuel : Nat) (same : likeness.Same value other) :
    value.textOn former fuel = other.textOn latter fuel := by
  induction fuel generalizing value other with
  | zero =>
      cases same with
      | same noMap => cases value <;> rfl
      | map _ => rfl
  | succ fuel ih =>
      cases same with
      | same noMap =>
          cases value with
          | list ref => exact joinOn_eq alike ih ref [',']
          | _ => rfl
      | map _ => rfl

theorem text_eq (same : likeness.Same value other) : value.text former = other.text latter := by
  rw [Value.text, Value.text, likeness.lists alike, textOn_eq alike _ same]

theorem render_eq (same : likeness.Same value other) :
    value.render former = other.render latter := by
  rw [Value.render, Value.render, text_eq alike same]

theorem joinItems_eq (ref : ListRef) (separator : Text) :
    Value.joinItems former ref separator = Value.joinItems latter ref separator := by
  rw [Value.joinItems, Value.joinItems, likeness.lists alike, joinOn_eq alike (textOn_eq alike _)]

theorem toNumber_eq (same : likeness.Same value other) :
    value.toNumber former = other.toNumber latter := by
  cases same with
  | same noMap =>
      cases value with
      | list ref => rw [Value.toNumber, Value.toNumber, text_eq alike (likeness.same_list ref)]
      | _ => rfl
  | map _ => rfl

theorem toWord_eq (same : likeness.Same value other) :
    value.toWord former = other.toWord latter := by
  rw [Value.toWord, Value.toWord, toNumber_eq alike same]

/-! ### Operators -/

theorem unaryApply_eq (operator : UnaryOperator) (same : likeness.Same value other) :
    operator.apply former value = operator.apply latter other := by
  cases operator <;>
    simp only [UnaryOperator.apply, toNumber_eq alike same, toWord_eq alike same,
      isTruthy_eq same]

/-- An order looks at two texts, or else at two numbers. -/
theorem order_eq (texts : String → String → Bool) (numbers : Float → Float → Bool) :
    likeness.Same value other → likeness.Same first second →
    (match value, first with
      | .string text, .string textToo => texts text textToo
      | number, numberToo => numbers (number.toNumber former) (numberToo.toNumber former)) =
    match other, second with
      | .string text, .string textToo => texts text textToo
      | number, numberToo => numbers (number.toNumber latter) (numberToo.toNumber latter) := by
  intro left right
  have number := toNumber_eq alike left
  have numberToo := toNumber_eq alike right
  cases left with
  | map _ => simp only [number, numberToo]
  | same _ =>
      cases right with
      | map _ => simp only [number, numberToo]
      | same _ =>
          split
          · rfl
          · rw [number, numberToo]

section

variable (left : likeness.Same value other) (right : likeness.Same first second)
include left right

theorem add_eq : value.add former first = other.add latter second := by
  simp only [Value.add, joinsTexts_eq left, joinsTexts_eq right, text_eq alike left,
    text_eq alike right, toNumber_eq alike left, toNumber_eq alike right]

theorem less_eq : value.less former first = other.less latter second :=
  order_eq alike (fun text textToo => decide (text < textToo))
    (fun number numberToo => decide (number < numberToo)) left right

theorem lessOrEqual_eq : value.lessOrEqual former first = other.lessOrEqual latter second :=
  order_eq alike (fun text textToo => !decide (textToo < text))
    (fun number numberToo => decide (number ≤ numberToo)) left right

end

/-- The texts that stand for objects, and other values, correspond to each other. -/
theorem same_textOfObject (same : likeness.Same value other) :
    likeness.Same (value.textOfObject former) (other.textOfObject latter) := by
  rw [Value.textOfObject, Value.textOfObject, isObject_eq same, render_eq alike same]
  split
  · exact likeness.same_plain rfl
  · exact same

/-- Either both pairs of values are compared as they are, or what they are coerced to corresponds to
each other. -/
theorem coerced?_eq_none_or (left : likeness.Same value other) (right : likeness.Same first second) :
    (value.coerced? former first = none ∧ other.coerced? latter second = none) ∨
      ∃ operand argument operandToo argumentToo,
        value.coerced? former first = some (operand, argument) ∧
        other.coerced? latter second = some (operandToo, argumentToo) ∧
        likeness.Same operand operandToo ∧ likeness.Same argument argumentToo := by
  simp only [Value.coerced?, isNullish_eq left, isNullish_eq right, isBool_eq left, isBool_eq right,
    isObject_eq left, isObject_eq right]
  split_ifs
  · exact .inl ⟨rfl, rfl⟩
  · exact .inl ⟨rfl, rfl⟩
  · exact .inr ⟨_, _, _, _, rfl, rfl, same_numberOfBool left, right⟩
  · exact .inr ⟨_, _, _, _, rfl, rfl, left, same_numberOfBool right⟩
  · exact .inl ⟨rfl, rfl⟩
  · exact .inr ⟨_, _, _, _, rfl, rfl, same_textOfObject alike left, right⟩
  · exact .inr ⟨_, _, _, _, rfl, rfl, left, same_textOfObject alike right⟩
  · exact .inl ⟨rfl, rfl⟩

theorem looseWithin?_eq (fuel : Nat) (left : likeness.Same value other)
    (right : likeness.Same first second) :
    value.looseWithin? former fuel first = other.looseWithin? latter fuel second := by
  induction fuel generalizing value other first second with
  | zero =>
      obtain ⟨plain, plainToo⟩ | ⟨_, _, _, _, coerced, coercedToo, _⟩ :=
        coerced?_eq_none_or alike left right
      · rw [Value.looseWithin?, Value.looseWithin?, plain, plainToo,
          plainEquals_eq former latter left right]
      · rw [Value.looseWithin?, Value.looseWithin?, coerced, coercedToo]
  | succ fuel ih =>
      obtain ⟨plain, plainToo⟩ | ⟨_, _, _, _, coerced, coercedToo, same, sameToo⟩ :=
        coerced?_eq_none_or alike left right
      · rw [Value.looseWithin?, Value.looseWithin?, plain, plainToo,
          plainEquals_eq former latter left right]
      · rw [Value.looseWithin?, Value.looseWithin?, coerced, coercedToo]
        exact ih same sameToo

theorem looseEquals_eq (left : likeness.Same value other) (right : likeness.Same first second) :
    value.looseEquals former first = other.looseEquals latter second := by
  rw [Value.looseEquals, Value.looseEquals, looseWithin?_eq alike 2 left right]

/-- The results of an operator correspond to each other. -/
theorem same_binaryApply (operator : BinaryOperator) (left : likeness.Same value other)
    (right : likeness.Same first second) :
    likeness.Same (operator.apply former value first) (operator.apply latter other second) := by
  have plain (result : Value) (isPlain : result.isObject = false) {otherResult : Value}
      (equal : result = otherResult) : likeness.Same result otherResult :=
    equal ▸ likeness.same_plain isPlain
  cases operator with
  | and =>
      rw [BinaryOperator.apply, BinaryOperator.apply, isTruthy_eq left]
      split <;> assumption
  | or =>
      rw [BinaryOperator.apply, BinaryOperator.apply, isTruthy_eq left]
      split <;> assumption
  | comma => exact right
  | plus =>
      refine plain _ ?_ (add_eq alike left right)
      rw [BinaryOperator.apply, Value.add]
      split <;> rfl
  | _ =>
      refine plain _ rfl ?_
      simp only [BinaryOperator.apply, toNumber_eq alike left, toNumber_eq alike right,
        toWord_eq alike left, toWord_eq alike right, less_eq alike left right,
        less_eq alike right left, lessOrEqual_eq alike left right,
        lessOrEqual_eq alike right left, looseEquals_eq alike left right, identical_eq left right]

end

end Likeness

end Parlance
