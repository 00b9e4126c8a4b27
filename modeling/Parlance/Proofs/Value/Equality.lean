import Mathlib.Order.WellFounded
import Parlance.Value.Operation

/-!
# Laws of equality

Loose equality goes on with coerced values at most twice, since a truth value becomes a number, an
object becomes a string, and neither of these is coerced again. Exchanging two values exchanges what
they are coerced to, so both orders take the same way. Values of one type and pairs of objects are
never coerced, and there loose equality is identity.
-/

namespace Parlance.Value

open Float.Model

variable {heap : Heap} {first second former latter value : Value} {fuel more : Nat} {answer : Bool}

/-! ### Coercion ends -/

/-- How often the value can be coerced. -/
def coercions : Value → Nat
  | bool _ => 1
  | list _ => 1
  | map _ => 1
  | function _ => 1
  | _ => 0

theorem coercions_le_one (value : Value) : value.coercions ≤ 1 := by
  cases value <;> simp [coercions]

theorem coercions_numberOfBool (truth : value.isBool = true) :
    value.numberOfBool.coercions < value.coercions := by
  cases value <;> first | exact Nat.one_pos | cases truth

theorem coercions_textOfObject (object : value.isObject = true) :
    (value.textOfObject heap).coercions < value.coercions := by
  rw [textOfObject, if_pos object]
  cases value <;> first | exact Nat.one_pos | cases object

/-- Coerced values can be coerced less often. -/
theorem coercions_lt_of_coerced? (coerced : coerced? heap first second = some (former, latter)) :
    former.coercions + latter.coercions < first.coercions + second.coercions := by
  unfold coerced? at coerced
  split_ifs at coerced with _ _ truth truthToo _ object objectToo <;>
    obtain ⟨rfl, rfl⟩ := Prod.mk.inj (Option.some.inj coerced)
  · exact Nat.add_lt_add_right (coercions_numberOfBool truth) _
  · exact Nat.add_lt_add_left (coercions_numberOfBool truthToo) _
  · exact Nat.add_lt_add_right (coercions_textOfObject object) _
  · exact Nat.add_lt_add_left (coercions_textOfObject objectToo) _

/-- No values are coerced for ever. -/
theorem wellFounded_coerced? (heap : Heap) :
    WellFounded fun next given : Value × Value => coerced? heap given.1 given.2 = some next :=
  Subrelation.wf coercions_lt_of_coerced?
    (InvImage.wf (fun pair : Value × Value => pair.1.coercions + pair.2.coercions) Nat.lt_wfRel.wf)

/-! ### Going on with coerced values -/

/-- There is an answer within as much fuel as there can be coercions. -/
theorem exists_looseWithin?_eq_some (enough : first.coercions + second.coercions ≤ fuel) :
    ∃ answer, looseWithin? heap fuel first second = some answer := by
  induction fuel generalizing first second with
  | zero =>
      cases coerced : coerced? heap first second with
      | none => exact ⟨plainEquals heap first second, by rw [looseWithin?, coerced]⟩
      | some _ =>
          have fewer := coercions_lt_of_coerced? coerced
          omega
  | succ fuel ih =>
      cases coerced : coerced? heap first second with
      | none => exact ⟨plainEquals heap first second, by rw [looseWithin?, coerced]⟩
      | some _ =>
          have fewer := coercions_lt_of_coerced? coerced
          rw [looseWithin?, coerced]
          exact ih (by omega)

/-- An answer stays the same with more fuel. -/
theorem looseWithin?_eq_some_of_le (answered : looseWithin? heap fuel first second = some answer)
    (le : fuel ≤ more) : looseWithin? heap more first second = some answer := by
  induction fuel generalizing first second more with
  | zero =>
      cases coerced : coerced? heap first second with
      | none => cases more <;> simpa [looseWithin?, coerced] using answered
      | some next => simp [looseWithin?, coerced] at answered
  | succ fuel ih =>
      obtain _ | more := more
      · cases le
      · cases coerced : coerced? heap first second with
        | none => simpa [looseWithin?, coerced] using answered
        | some next =>
            rw [looseWithin?, coerced] at answered ⊢
            exact ih answered (Nat.le_of_succ_le_succ le)

/-- Two coercions are enough. -/
theorem looseWithin?_eq_some (first second : Value) (enough : 2 ≤ fuel) :
    looseWithin? heap fuel first second = some (first.looseEquals heap second) := by
  have few : first.coercions + second.coercions ≤ 2 :=
    Nat.add_le_add (coercions_le_one first) (coercions_le_one second)
  obtain ⟨answer, answered⟩ : ∃ answer, looseWithin? heap 2 first second = some answer :=
    exists_looseWithin?_eq_some few
  rw [looseEquals, answered, Option.getD_some]
  exact looseWithin?_eq_some_of_le answered enough

/-- Values that are not coerced are compared as they are. -/
theorem looseEquals_eq_plainEquals (plain : coerced? heap first second = none) :
    first.looseEquals heap second = plainEquals heap first second := by
  rw [looseEquals, looseWithin?, plain, Option.getD_some]

/-! ### Exchanging the values -/

/-- Exchanging two numbers exchanges less and greater. -/
theorem compare_swap (first second : UnpackedFloat) :
    second.compare first = (first.compare second).map Ordering.swap := by
  -- Among numbers of one sign the exponents decide before the mantissas.
  have sizes (exponent other : Int) (mantissa size : Nat) :
      (compare other exponent).then (compare size mantissa) =
        ((compare exponent other).then (compare mantissa size)).swap := by
    rw [Ordering.swap_then, Int.compare_swap, Nat.compare_swap]
  rcases first with (_ | _) | _ | _ | ⟨_ | _, _, _, _⟩ <;>
    rcases second with (_ | _) | _ | _ | ⟨_ | _, _, _, _⟩ <;>
      first
        | rfl
        | exact congrArg some (sizes _ _ _ _)
        | exact congrArg (some ∘ Ordering.swap) (sizes _ _ _ _)

theorem number_beq_comm (first second : Float) : (first == second) = (second == first) := by
  change (first.toModel.unpack.compare second.toModel.unpack == some .eq) =
    (second.toModel.unpack.compare first.toModel.unpack == some .eq)
  rw [compare_swap first.toModel.unpack]
  rcases first.toModel.unpack.compare second.toModel.unpack with _ | _ | _ | _ <;> rfl

theorem identical_comm (first second : Value) :
    first.identical second = second.identical first := by
  cases first <;> cases second <;> first | rfl | exact number_beq_comm _ _ | exact BEq.comm

theorem scalarEquals_comm (heap : Heap) (first second : Value) :
    scalarEquals heap first second = scalarEquals heap second first := by
  cases first <;> cases second <;> first | rfl | exact number_beq_comm _ _ | exact BEq.comm

theorem plainEquals_comm (heap : Heap) (first second : Value) :
    plainEquals heap first second = plainEquals heap second first := by
  rw [plainEquals, plainEquals, identical_comm, scalarEquals_comm, Bool.or_comm,
    Bool.and_comm first.isNullish, Bool.and_comm first.isObject]

/-- Exchanged values are coerced to what the values are coerced to, exchanged. -/
theorem coerced?_swap (heap : Heap) (first second : Value) :
    coerced? heap second first = (coerced? heap first second).map Prod.swap := by
  cases first <;> cases second <;> rfl

theorem looseWithin?_comm (heap : Heap) (fuel : Nat) (first second : Value) :
    looseWithin? heap fuel first second = looseWithin? heap fuel second first := by
  induction fuel generalizing first second with
  | zero =>
      rw [looseWithin?, looseWithin?, coerced?_swap heap first second, plainEquals_comm]
      cases coerced? heap first second <;> rfl
  | succ fuel ih =>
      rw [looseWithin?, looseWithin?, coerced?_swap heap first second, plainEquals_comm]
      cases coerced? heap first second with
      | none => rfl
      | some next => exact ih next.1 next.2

theorem looseEquals_comm (heap : Heap) (first second : Value) :
    first.looseEquals heap second = second.looseEquals heap first := by
  rw [looseEquals, looseEquals, looseWithin?_comm]

/-! ### Identity -/

/-- Loose equality and identity agree on values of one type and on objects. -/
theorem looseEquals_eq_identical
    (alike : first.typeName = second.typeName ∨ first.isObject = true ∧ second.isObject = true) :
    first.looseEquals heap second = first.identical second := by
  have plain : coerced? heap first second = none := by
    cases first <;> cases second <;> first | rfl | simp [typeName, isObject] at alike
  rw [looseEquals_eq_plainEquals plain]
  cases first <;> cases second <;> first | rfl | simp [typeName, isObject] at alike

/-- Identical values are of one type. -/
theorem typeName_eq_of_identical (identical : first.identical second = true) :
    first.typeName = second.typeName := by
  cases first <;> cases second <;> first | rfl | cases identical

theorem looseEquals_of_identical (identical : first.identical second = true) :
    first.looseEquals heap second = true := by
  rw [looseEquals_eq_identical (.inl (typeName_eq_of_identical identical)), identical]

/-- Loose equality ends after at most two coercions, does not depend on the order of the values,
contains identity, and is identity on values of one type and on objects. The operators of inequality
negate those of equality. -/
theorem equality_laws (heap : Heap) :
    (WellFounded fun next given : Value × Value => coerced? heap given.1 given.2 = some next) ∧
    (∀ fuel (first second : Value), 2 ≤ fuel →
      looseWithin? heap fuel first second = some (first.looseEquals heap second)) ∧
    (∀ first second : Value, first.looseEquals heap second = second.looseEquals heap first) ∧
    (∀ first second : Value, first.identical second = true → first.looseEquals heap second = true) ∧
    (∀ first second : Value, first.typeName = second.typeName ∨
        first.isObject = true ∧ second.isObject = true →
      first.looseEquals heap second = first.identical second) ∧
    (∀ first second,
      BinaryOperator.equal.apply heap first second = .bool (first.looseEquals heap second) ∧
      BinaryOperator.notEqual.apply heap first second = .bool (!first.looseEquals heap second) ∧
      BinaryOperator.identical.apply heap first second = .bool (first.identical second) ∧
      BinaryOperator.notIdentical.apply heap first second = .bool (!first.identical second)) := by
  refine ⟨wellFounded_coerced? heap, ?fuel, looseEquals_comm heap, ?contains, ?coincides, ?negates⟩
  case fuel =>
    intro fuel first second enough
    exact looseWithin?_eq_some first second enough
  case contains =>
    intro first second identical
    exact looseEquals_of_identical identical
  case coincides =>
    intro first second alike
    exact looseEquals_eq_identical alike
  case negates =>
    intro first second
    exact ⟨rfl, rfl, rfl, rfl⟩

/-- A heap with a list of true and the list itself, and an empty map. -/
def loop : Heap where
  lists := #[[.bool true, .list ⟨0⟩]]
  maps := #[.empty]
  functions := 0

/-- The list that contains itself equals its text in both orders, itself, and no map. -/
theorem equality_laws_loop :
    (Value.list ⟨0⟩).looseEquals loop (.string "true,") = true ∧
    looseWithin? loop 2 (.list ⟨0⟩) (.string "true,") = some true ∧
    (Value.string "true,").looseEquals loop (.list ⟨0⟩) = true ∧
    (Value.list ⟨0⟩).looseEquals loop (.list ⟨0⟩) = true ∧
    (Value.list ⟨0⟩).looseEquals loop (.map ⟨0⟩) = false := by
  obtain ⟨_, answers, symmetric, contains, coincides, _⟩ := equality_laws loop
  have text : (Value.list ⟨0⟩).looseEquals loop (.string "true,") = true := by decide +kernel
  refine ⟨text, ?_, ?_, contains _ _ rfl, coincides _ _ (.inr ⟨rfl, rfl⟩)⟩
  · rw [answers 2 _ _ (Nat.le_refl 2), text]
  · rw [symmetric, text]

end Parlance.Value
