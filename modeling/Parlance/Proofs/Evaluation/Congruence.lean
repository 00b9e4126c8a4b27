import Parlance.Evaluation.Meaning
import Parlance.Proofs.Evaluation.Agreement

/-!
# Evaluation agrees

An expression agrees with itself in two contexts, in every use, if reading and assigning its names
agrees in them and the host cannot tell apart what looks alike. The contexts enter through the names
alone.
-/

namespace Parlance

variable {comparison : Comparison} {host : Host} {context otherContext : Context}
  {value other first second : Value} {arguments others : List Value} {name : String}

open Eval

/-! ### Properties -/

namespace Value

theorem newMethod_agrees (name : String) (code : Option FunctionCode) :
    Agrees comparison comparison.Same (newMethod name code) (newMethod name code) := by
  cases code with
  | some code =>
      refine Agrees.bind Eq (Agrees.onHeap ?_) ?_
      · intro former latter alike
        refine ⟨?_, comparison.newFunction alike name code⟩
        rw [Heap.newFunction, Heap.newFunction, comparison.functions alike]
      · rintro function _ rfl
        exact .pure (comparison.same_function function)
  | none => exact .pure (comparison.same_plain rfl)

theorem getProperty_agrees (same : comparison.Same value other) (name : String) :
    Agrees comparison comparison.Same (value.getProperty name) (other.getProperty name) := by
  refine Agrees.heap_bind fun former latter alike => ?_
  cases same with
  | map link => exact .pure (Likeness.same_getD (comparison.entry alike link name))
  | same noMap =>
      cases value with
      | undefined => exact .throw (comparison.shared _ (by simp))
      | null => exact .throw (comparison.shared _ (by simp))
      | map ref => exact absurd rfl (noMap ref)
      | list ref =>
          have items := comparison.items alike ref
          dsimp only
          split
          · rw [items.length_eq]
            exact .pure (comparison.same_plain rfl)
          · split
            · exact .pure (Likeness.same_getD (Likeness.rel_getElem? items _))
            · exact newMethod_agrees name _
      | string text =>
          dsimp only
          split
          · exact .pure (comparison.same_plain rfl)
          · split
            · refine .pure (comparison.same_plain ?_)
              split <;> rfl
            · exact newMethod_agrees name _
      | function target =>
          refine .pure (comparison.same_plain ?_)
          split <;> rfl
      | bool _ => exact .pure (comparison.same_plain rfl)
      | number _ => exact .pure (comparison.same_plain rfl)

/-- Putting items that correspond to each other into one list goes equally well. -/
theorem putItem?_rel {former latter : Heap} (alike : comparison.Alike former latter)
    (same : comparison.Same value other) (ref : ListRef) (index : Nat) :
    Option.Rel comparison.Alike (former.putItem? ref index value)
      (latter.putItem? ref index other) := by
  have items := comparison.items alike ref
  rw [Heap.putItem?, Heap.putItem?, items.length_eq]
  split
  · exact .some (comparison.setItems alike (Likeness.allSame_set items index same) ref)
  · split
    · refine .some (comparison.setItems alike ?_ ref)
      refine Likeness.allSame_append (Likeness.allSame_append items ?_) (.cons same .nil)
      refine comparison.allSame_plain fun item member => ?_
      rw [List.eq_of_mem_replicate member]
      rfl
    · exact .none

theorem setProperty_agrees (same : comparison.Same value other) (name : String)
    (sameToo : comparison.Same first second) :
    Agrees comparison (fun _ _ => True) (value.setProperty name first)
      (other.setProperty name second) := by
  refine Agrees.heap_bind fun former latter alike => ?_
  cases same with
  | map link => exact .setHeap (comparison.insert alike link sameToo name)
  | same noMap =>
      cases value with
      | map ref => exact absurd rfl (noMap ref)
      | list ref =>
          dsimp only
          split
          · rename_i index _
            have put := putItem?_rel alike sameToo ref index
            generalize former.putItem? ref index first = found at put
            generalize latter.putItem? ref index second = foundOther at put
            cases put with
            | some alike => exact .setHeap alike
            | none => exact .throw (comparison.shared _ (by simp))
          · exact .throw (comparison.shared _ (by simp))
      | _ => exact .throw (comparison.shared _ (by simp))

theorem getIndex_agrees (same : comparison.Same value other)
    (key : comparison.Same first second) :
    Agrees comparison comparison.Same (value.getIndex first) (other.getIndex second) := by
  refine Agrees.heap_bind fun former latter alike => ?_
  rw [Likeness.render_eq alike key]
  exact getProperty_agrees same _

theorem setIndex_agrees (same : comparison.Same value other)
    (key : comparison.Same first second) {newValue newOther : Value}
    (sameToo : comparison.Same newValue newOther) :
    Agrees comparison (fun _ _ => True) (value.setIndex first newValue)
      (other.setIndex second newOther) := by
  refine Agrees.heap_bind fun former latter alike => ?_
  rw [Likeness.render_eq alike key]
  exact setProperty_agrees same _ sameToo

end Value

/-! ### Methods -/

theorem isUndefinedNumber_eq {likeness : Likeness} (same : likeness.Same value other) :
    value.isUndefinedNumber = other.isUndefinedNumber := by
  cases same <;> rfl

section

variable {likeness : Likeness} {former latter : Heap} (alike : likeness.Alike former latter)
include alike

theorem sliceBound_eq (length fallback : Nat) {argument argumentOther : Option Value}
    (rel : Option.Rel likeness.Same argument argumentOther) :
    sliceBound former length fallback argument = sliceBound latter length fallback argumentOther := by
  cases rel with
  | none => rfl
  | some same =>
      have number := Likeness.toNumber_eq alike same
      cases same with
      | map _ => rw [sliceBound.eq_def, sliceBound.eq_def]; simp only [number]
      | same _ =>
          rw [sliceBound.eq_def, sliceBound.eq_def]
          split
          · rfl
          · rfl
          · simp_all

theorem separator?_eq (all : likeness.AllSame arguments others) :
    separator? former arguments = separator? latter others := by
  have rel := Likeness.rel_getElem? all 0
  unfold separator?
  generalize arguments[0]? = found at rel
  generalize others[0]? = foundOther at rel
  cases rel with
  | none => rfl
  | some same =>
      have text := Likeness.text_eq alike same
      cases same with
      | map _ => simp only [text]
      | same _ => split <;> simp_all

/-- Slices of items that correspond to each other do so as well. -/
theorem sliceOf_rel {α : Type} {related : α → α → Prop} {items otherItems : List α}
    (parts : List.Forall₂ related items otherItems) (all : likeness.AllSame arguments others) :
    List.Forall₂ related (sliceOf former items arguments) (sliceOf latter otherItems others) := by
  rw [sliceOf, sliceOf, parts.length_eq,
    sliceBound_eq alike _ _ (Likeness.rel_getElem? all 0),
    sliceBound_eq alike _ _ (Likeness.rel_getElem? all 1)]
  exact List.forall₂_drop _ (List.forall₂_take _ parts)

end

theorem same_positionValue (likeness : Likeness) (position : Option Nat) :
    likeness.Same (positionValue position) (positionValue position) := by
  cases position <;> exact likeness.same_plain rfl

/-- Making a list of items that correspond to each other. -/
theorem newList_agrees {items otherItems : Heap → List Value}
    (all : ∀ former latter, comparison.Alike former latter →
      comparison.AllSame (items former) (otherItems latter)) :
    Agrees comparison comparison.Same
      (do return .list (← onHeap fun heap => heap.newList (items heap)))
      (do return .list (← onHeap fun heap => heap.newList (otherItems heap))) := by
  refine Agrees.bind Eq (Agrees.onHeap ?_) ?_
  · intro former latter alike
    refine ⟨?_, comparison.newList alike (all former latter alike)⟩
    rw [Heap.newList, Heap.newList, comparison.lists alike]
  · rintro ref _ rfl
    exact .pure (comparison.same_list ref)

theorem ListMethod.call_agrees (method : ListMethod) (ref : ListRef)
    (all : comparison.AllSame arguments others) :
    Agrees comparison comparison.Same (method.call ref arguments) (method.call ref others) := by
  have argument := Likeness.same_getD (Likeness.rel_getElem? all 0)
  refine Agrees.heap_bind fun former latter alike => ?_
  have items := comparison.items alike ref
  cases method with
  | join =>
      dsimp only
      rw [separator?_eq alike all, Likeness.joinItems_eq alike]
      exact .pure (comparison.same_plain rfl)
  | push =>
      refine Agrees.bind _ (Agrees.setHeap (comparison.setItems alike ?_ ref)) ?_
      · exact Likeness.allSame_append items all
      · intro _ _ _
        rw [items.length_eq, all.length_eq]
        exact .pure (comparison.same_plain rfl)
  | pop =>
      refine Agrees.bind (Option.Rel comparison.Same) (Agrees.onHeap ?_) ?_
      · intro former latter alike
        have items := comparison.items alike ref
        rw [Heap.popItem, Heap.popItem]
        constructor
        · rw [List.getLast?_eq_getElem?, List.getLast?_eq_getElem?, items.length_eq]
          exact Likeness.rel_getElem? items _
        · refine comparison.setItems alike ?_ ref
          rw [List.dropLast_eq_take, List.dropLast_eq_take, items.length_eq]
          exact List.forall₂_take _ items
      · intro found foundOther rel
        exact .pure (Likeness.same_getD rel)
  | indexOf =>
      dsimp only
      rw [Likeness.findIdx?_eq items fun _ _ same => Likeness.identical_eq same argument]
      exact .pure (same_positionValue _ _)
  | includes =>
      dsimp only
      rw [Likeness.any_eq items fun _ _ same => by
        rw [Likeness.identical_eq same argument, isUndefinedNumber_eq same,
          isUndefinedNumber_eq argument]]
      exact .pure (comparison.same_plain rfl)
  | slice =>
      exact newList_agrees fun _ _ alike => sliceOf_rel alike (comparison.items alike ref) all

theorem StringMethod.call_agrees (method : StringMethod) (text : Text)
    (all : comparison.AllSame arguments others) :
    Agrees comparison comparison.Same (method.call text arguments) (method.call text others) := by
  refine Agrees.heap_bind fun former latter alike => ?_
  cases method with
  | indexOf =>
      dsimp only
      rw [Likeness.text_eq alike (Likeness.same_getD (Likeness.rel_getElem? all 0))]
      exact .pure (same_positionValue _ _)
  | slice =>
      have sliced : sliceOf former text arguments = sliceOf latter text others :=
        List.forall₂_eq_eq_eq ▸ sliceOf_rel alike (List.forall₂_same.2 fun _ _ => rfl) all
      dsimp only
      rw [sliced]
      exact .pure (comparison.same_plain rfl)
  | split =>
      dsimp only
      rw [separator?_eq alike all]
      refine newList_agrees fun _ _ _ => comparison.allSame_plain fun item member => ?_
      obtain ⟨part, _, rfl⟩ := List.mem_map.1 member
      rfl
  | _ => exact .pure (comparison.same_plain rfl)

/-- Calls agree, and the host is told what corresponds to each other. -/
theorem Function.call_agrees (trusts : comparison.Trusts host) (function : Function)
    (same : comparison.Same value other) (all : comparison.AllSame arguments others) :
    Agrees comparison comparison.Same (function.call host value arguments)
      (function.call host other others) := by
  rw [Function.call, Function.call]
  split
  · cases same with
    | map _ => exact .throw (comparison.shared _ (by simp))
    | same _ =>
        split
        · exact ListMethod.call_agrees _ _ all
        · exact .throw (comparison.shared _ (by simp))
  · cases same with
    | map _ => exact .throw (comparison.shared _ (by simp))
    | same _ =>
        split
        · exact StringMethod.call_agrees _ _ all
        · exact .throw (comparison.shared _ (by simp))
  · intro former latter machines
    obtain ⟨results, alike⟩ := trusts function value other arguments others former.heap
      latter.heap same all machines.heap
    refine .alike results ⟨alike, ?_⟩
    exact List.rel_append machines.calls (.cons ⟨rfl, same, all, machines.heap⟩ .nil)

/-! ### Uses of expressions -/

/-- The meanings agree in every use. -/
structure Meaning.Agrees (comparison : Comparison) (meaning other : Meaning) : Prop where
  value : meaning.value.Agrees comparison comparison.Same other.value
  assign : ∀ value another, comparison.Same value another →
    (meaning.assign value).Agrees comparison (fun _ _ => True) (other.assign another)
  arguments : meaning.arguments.Agrees comparison comparison.AllSame other.arguments
  callee : meaning.callee.Agrees comparison comparison.SameBoth other.callee

namespace Meaning

theorem agrees_ofValue {step stepOther : Eval Value}
    (agrees : step.Agrees comparison comparison.Same stepOther) :
    (ofValue step).Agrees comparison (ofValue stepOther) where
  value := agrees
  assign _ _ _ := .throw (comparison.shared _ (by simp))
  arguments := .bind _ agrees fun _ _ same => .pure (.cons same .nil)
  callee := .bind _ agrees fun _ _ same => .pure ⟨comparison.same_plain rfl, same⟩

theorem agrees_ofPlace {step stepOther : Eval Value} {assign assignOther : Value → Eval Unit}
    (agrees : step.Agrees comparison comparison.Same stepOther)
    (writes : ∀ value another, comparison.Same value another →
      (assign value).Agrees comparison (fun _ _ => True) (assignOther another)) :
    (ofPlace step assign).Agrees comparison (ofPlace stepOther assignOther) :=
  { agrees_ofValue agrees with assign := writes }

theorem agrees_ofProperty {κ : Type} (matching : κ → κ → Prop) {place placeOther : Eval (Value × κ)}
    {read : Value → κ → Eval Value} {write : Value → κ → Value → Eval Unit}
    (agrees : place.Agrees comparison
      (fun found another => comparison.Same found.1 another.1 ∧ matching found.2 another.2)
      placeOther)
    (reads : ∀ object another key keyOther, comparison.Same object another →
      matching key keyOther →
      (read object key).Agrees comparison comparison.Same (read another keyOther))
    (writes : ∀ object another key keyOther value valueOther, comparison.Same object another →
      matching key keyOther → comparison.Same value valueOther →
      (write object key value).Agrees comparison (fun _ _ => True)
        (write another keyOther valueOther)) :
    (ofProperty place read write).Agrees comparison (ofProperty placeOther read write) := by
  have callee : (ofProperty place read write).callee.Agrees comparison comparison.SameBoth
      (ofProperty placeOther read write).callee := by
    refine .bind _ agrees ?_
    rintro ⟨object, key⟩ ⟨another, keyOther⟩ ⟨same, fits⟩
    exact .bind _ (reads _ _ _ _ same fits) fun _ _ found => .pure ⟨same, found⟩
  refine { agrees_ofPlace ?_ ?_ with callee := callee }
  · exact .map callee fun _ _ both => both.2
  · intro value valueOther sameToo
    refine .bind _ agrees ?_
    rintro ⟨object, key⟩ ⟨another, keyOther⟩ ⟨same, fits⟩
    exact writes _ _ _ _ _ _ same fits sameToo

variable {operand operandOther callee calleeOther left leftOther right rightOther : Meaning}

theorem step_agrees (agrees : operand.Agrees comparison operandOther) (step : Step) :
    (operand.step step).Agrees comparison comparison.SameBoth (operandOther.step step) := by
  refine .bind _ agrees.value fun value another same => ?_
  refine .heap_bind fun former latter alike => ?_
  rw [Likeness.toNumber_eq alike same]
  refine .bind _ (agrees.assign _ _ (comparison.same_plain rfl)) fun _ _ _ => ?_
  exact .pure ⟨comparison.same_plain rfl, comparison.same_plain rfl⟩

theorem unary_agrees (agrees : operand.Agrees comparison operandOther)
    (operator : UnaryOperator) :
    (unary operator operand).Agrees comparison comparison.Same (unary operator operandOther) := by
  have applied : (do
      let value ← operand.value
      return operator.apply (← Eval.heap) value).Agrees comparison comparison.Same (do
      let value ← operandOther.value
      return operator.apply (← Eval.heap) value) := by
    refine .bind _ agrees.value fun value another same => ?_
    refine .heap_bind fun former latter alike => ?_
    rw [Likeness.unaryApply_eq alike operator same]
    refine .pure (comparison.same_plain ?_)
    cases operator <;> rfl
  cases operator with
  | stepBy step => exact .map (step_agrees agrees step) fun _ _ both => both.2
  | _ => exact applied

theorem binary_agrees (first : left.Agrees comparison leftOther)
    (second : right.Agrees comparison rightOther) (operator : BinaryOperator) :
    (binary operator left right).Agrees comparison comparison.Same
      (binary operator leftOther rightOther) := by
  refine .bind _ first.value fun value another same => ?_
  -- All operators but the short-circuiting ones and the comma apply to both values.
  have applied : (do
      let other ← right.value
      return operator.apply (← Eval.heap) value other).Agrees comparison comparison.Same (do
      let other ← rightOther.value
      return operator.apply (← Eval.heap) another other) := by
    refine .bind _ second.value fun _ _ sameToo => ?_
    refine .heap_bind fun former latter alike => ?_
    exact .pure (Likeness.same_binaryApply alike operator same sameToo)
  cases operator with
  | and =>
      dsimp only
      rw [Likeness.isTruthy_eq same]
      split
      · exact second.value
      · exact .pure same
  | or =>
      dsimp only
      rw [Likeness.isTruthy_eq same]
      split
      · exact .pure same
      · exact second.value
  | comma => exact second.value
  | _ => exact applied

theorem sequence_agrees (first : left.Agrees comparison leftOther)
    (second : right.Agrees comparison rightOther) :
    (sequence left right).Agrees comparison comparison.AllSame (sequence leftOther rightOther) := by
  refine .bind _ first.arguments fun _ _ all => ?_
  refine .bind _ second.value fun _ _ same => ?_
  exact .pure (Likeness.allSame_append all (.cons same .nil))

theorem call_agrees (trusts : comparison.Trusts host)
    (target : callee.Agrees comparison calleeOther) {values valuesOther : Eval (List Value)}
    (given : values.Agrees comparison comparison.AllSame valuesOther) (text : Text) :
    (call host callee text values).Agrees comparison comparison.Same
      (call host calleeOther text valuesOther) := by
  refine .bind _ target.callee ?_
  rintro ⟨receiver, function⟩ ⟨receiverOther, functionOther⟩ ⟨same, called⟩
  refine .bind _ given fun _ _ all => ?_
  cases called with
  | map _ => exact .throw (comparison.shared _ (by simp))
  | same _ =>
      split
      · exact Function.call_agrees trusts _ same all
      · exact .throw (comparison.shared _ (by simp))

end Meaning

/-- The names that the expression reads or assigns. -/
def Expr.symbols : Expr → List String
  | symbol _ name => [name]
  | literal _ _ => []
  | member _ object _ => object.symbols
  | index _ object key => object.symbols ++ key.symbols
  | call _ callee arguments => callee.symbols ++ arguments.symbols
  | callEmpty _ callee => callee.symbols
  | unary _ _ operand => operand.symbols
  | stepAfter _ _ operand => operand.symbols
  | binary _ _ left right => left.symbols ++ right.symbols
  | ternary _ condition truthy falsy => condition.symbols ++ truthy.symbols ++ falsy.symbols
  | wrapper _ inner => inner.symbols

open Meaning in
/-- Every use of an expression agrees in contexts where its names do. -/
theorem Expr.meaning_agrees (trusts : comparison.Trusts host) {names : String → Prop}
    (admits : comparison.Admits context otherContext names) (expr : Expr)
    (within : ∀ name ∈ expr.symbols, names name) :
    (expr.meaning host context).Agrees comparison (expr.meaning host otherContext) := by
  induction expr with
  | symbol _ name =>
      have known := within name (List.mem_singleton.2 rfl)
      exact agrees_ofPlace (admits.reads name known) (admits.writes name known)
  | literal _ value =>
      cases value <;> exact agrees_ofValue (.pure (comparison.same_plain rfl))
  | member _ object property ih =>
      refine agrees_ofProperty Eq ?_ ?_ ?_
      · exact .bind _ (ih within).value fun _ _ same => .pure ⟨same, rfl⟩
      · rintro object another key _ same rfl
        exact Value.getProperty_agrees same key
      · rintro object another key _ value valueOther same rfl sameToo
        exact Value.setProperty_agrees same key sameToo
  | index _ object key ihObject ihKey =>
      simp only [symbols, List.forall_mem_append] at within
      refine agrees_ofProperty comparison.Same ?_ ?_ ?_
      · refine .bind _ (ihObject within.1).value fun _ _ same => ?_
        exact .bind _ (ihKey within.2).value fun _ _ sameToo => .pure ⟨same, sameToo⟩
      · intro _ _ _ _ same key
        exact Value.getIndex_agrees same key
      · intro _ _ _ _ _ _ same key sameToo
        exact Value.setIndex_agrees same key sameToo
  | call _ callee arguments ihCallee ihArguments =>
      simp only [symbols, List.forall_mem_append] at within
      exact agrees_ofValue
        (call_agrees trusts (ihCallee within.1) (ihArguments within.2).arguments _)
  | callEmpty _ callee ih =>
      exact agrees_ofValue (call_agrees trusts (ih within) (.pure .nil) _)
  | unary _ operator operand ih => exact agrees_ofValue (unary_agrees (ih within) operator)
  | stepAfter _ step operand ih =>
      exact agrees_ofValue (.map (step_agrees (ih within) step) fun _ _ both => both.1)
  | binary _ operator left right ihLeft ihRight =>
      simp only [symbols, List.forall_mem_append] at within
      have first := ihLeft within.1
      have second := ihRight within.2
      have plain := agrees_ofValue (binary_agrees first second operator)
      cases operator with
      | comma => exact { plain with arguments := sequence_agrees first second }
      | _ => exact plain
  | ternary _ condition truthy falsy ihCondition ihTruthy ihFalsy =>
      simp only [symbols, List.forall_mem_append] at within
      refine agrees_ofValue (.bind _ (ihCondition within.1.1).value fun _ _ same => ?_)
      rw [Likeness.isTruthy_eq same]
      split
      · exact (ihTruthy within.1.2).value
      · exact (ihFalsy within.2).value
  | wrapper _ inner ih =>
      refine { ih within with arguments := ?_ }
      exact .bind _ (ih within).value fun _ _ same => .pure (.cons same .nil)

end Parlance
