/-!
# Ternaries in passes

A ternary is reduced in passes. One pass joins a condition with the operand between its question mark
and its colon and with whatever stands behind the colon at that moment. This module says what a pass
makes of a tree of ternaries, and when all passes together come to the value of the tree. They do so
exactly if no false branch takes more than one pass longer than the true branch beside it.
-/

namespace Parlance.Arithmetic

/-- An operand, or a condition with two branches. -/
inductive Ternary (α : Type) where
  | operand (value : α)
  | branch (condition : α) (truthy falsy : Ternary α)

variable {α β : Type} (join : α → α → α → α)

namespace Ternary

/-- The value of the tree, joined from the values of its parts. -/
def value : Ternary α → α
  | operand value => value
  | branch condition truthy falsy => join condition truthy.value falsy.value

/-- The tree with its first operand changed. -/
def mapFirst (change : α → α) : Ternary α → Ternary α
  | operand value => operand (change value)
  | branch condition truthy falsy => branch (change condition) truthy falsy

/-- What one pass makes of the tree. -/
def step : Ternary α → Ternary α
  | operand value => operand value
  | branch condition (operand truthy) falsy => falsy.step.mapFirst (join condition truthy)
  | branch condition truthy falsy => branch condition truthy.step falsy.step

/-- The number of passes that the tree takes. -/
def passes : Ternary α → Nat
  | operand _ => 0
  | branch _ truthy falsy => max (truthy.passes + 1) falsy.passes

/-- The number of conditions in the tree. -/
def branches : Ternary α → Nat
  | operand _ => 0
  | branch _ truthy falsy => truthy.branches + falsy.branches + 1

/-- Nowhere in the tree does a false branch take more than one pass longer than the true branch
beside it. -/
def KeepsPace : Ternary α → Prop
  | operand _ => True
  | branch _ truthy falsy =>
      falsy.passes ≤ truthy.passes + 1 ∧ truthy.KeepsPace ∧ falsy.KeepsPace

instance decidableKeepsPace : (tree : Ternary α) → Decidable tree.KeepsPace
  | operand _ => isTrue trivial
  | branch _ truthy falsy =>
      have := decidableKeepsPace truthy
      have := decidableKeepsPace falsy
      inferInstanceAs (Decidable (_ ∧ _ ∧ _))

/-- The tree with all its values changed. -/
def map (change : α → β) : Ternary α → Ternary β
  | operand value => operand (change value)
  | branch condition truthy falsy =>
      branch (change condition) (truthy.map change) (falsy.map change)

/-- Pass after pass, the tree becomes this operand. -/
inductive Settles : Ternary α → α → Prop where
  | operand {value} : Settles (.operand value) value
  | step {condition truthy falsy value}
      (later : Settles (Ternary.step join (.branch condition truthy falsy)) value) :
      Settles (.branch condition truthy falsy) value

variable {join} {tree truthy falsy : Ternary α} {condition first second : α}

/-! ### Passes -/

@[simp] theorem passes_mapFirst (change : α → α) (tree : Ternary α) :
    (tree.mapFirst change).passes = tree.passes := by
  cases tree <;> rfl

/-- Each pass brings the tree one pass closer to its end. -/
theorem passes_step (tree : Ternary α) : (tree.step join).passes = tree.passes - 1 := by
  fun_induction step join tree with
  | case1 => rfl
  | case2 condition truthy falsy ih =>
      simp only [passes_mapFirst, ih, passes]
      omega
  | case3 condition truthy falsy notOperand ihTruthy ihFalsy =>
      cases truthy with
      | operand value => exact absurd rfl (notOperand value)
      | branch _ _ _ =>
          simp only [passes, ihTruthy, ihFalsy]
          omega

theorem step_nested (condition inner : α) (innerTruthy innerFalsy falsy : Ternary α) :
    (branch condition (branch inner innerTruthy innerFalsy) falsy).step join =
      branch condition ((branch inner innerTruthy innerFalsy).step join) (falsy.step join) := by
  rw [Ternary.step]
  intro value isOperand
  cases isOperand

@[simp] theorem branches_mapFirst (change : α → α) (tree : Ternary α) :
    (tree.mapFirst change).branches = tree.branches := by
  cases tree <;> rfl

/-- A pass makes a tree with conditions smaller. -/
theorem branches_step (tree : Ternary α) : (tree.step join).branches ≤ tree.branches - 1 := by
  fun_induction Ternary.step join tree with
  | case1 => exact Nat.le_refl _
  | case2 condition truthy falsy ih =>
      simp only [branches_mapFirst, branches]
      omega
  | case3 condition truthy falsy notOperand ihTruthy ihFalsy =>
      cases truthy with
      | operand value => exact absurd rfl (notOperand value)
      | branch _ _ _ =>
          simp only [branches] at ihTruthy ⊢
          omega

theorem eq_operand_of_passes (none : tree.passes = 0) : ∃ value, tree = operand value := by
  cases tree with
  | operand value => exact ⟨value, rfl⟩
  | branch _ _ _ =>
      simp only [passes] at none
      omega

theorem exists_settles (tree : Ternary α) : ∃ value, tree.Settles join value := by
  generalize count : tree.passes = rounds
  induction rounds generalizing tree with
  | zero =>
      obtain ⟨value, rfl⟩ := eq_operand_of_passes count
      exact ⟨value, .operand⟩
  | succ rounds ih =>
      cases tree with
      | operand value => exact ⟨value, .operand⟩
      | branch condition truthy falsy =>
          obtain ⟨value, later⟩ := ih (step join (branch condition truthy falsy))
            (by rw [passes_step, count]; rfl)
          exact ⟨value, .step later⟩

theorem Settles.unique {value other : α} (settles : tree.Settles join value)
    (again : tree.Settles join other) : value = other := by
  induction settles with
  | operand =>
      cases again
      rfl
  | step _ ih =>
      cases again with
      | step later => exact ih later

/-- After a pass, the tree still settles to the same operand. -/
theorem Settles.pass {value : α} (settles : tree.Settles join value) :
    (tree.step join).Settles join value := by
  cases settles with
  | operand => exact .operand
  | step later => exact later

/-! ### When passes come to the value -/

/-- A false branch that keeps pace is ready when the true branch is, so the ternary is made of what
its parts settle to. -/
theorem Settles.branch {falsyValue truthyValue : α} (inTime : falsy.passes ≤ truthy.passes + 1)
    (settlesTruthy : truthy.Settles join truthyValue)
    (settlesFalsy : falsy.Settles join falsyValue) :
    (Ternary.branch condition truthy falsy).Settles join (join condition truthyValue falsyValue) := by
  induction settlesTruthy generalizing falsy with
  | @operand truthyValue =>
      have ready : (falsy.step join).passes = 0 := by
        rw [passes_step]
        simp only [passes] at inTime
        omega
      obtain ⟨value, single⟩ := eq_operand_of_passes ready
      have settled := settlesFalsy.pass
      rw [single] at settled
      cases settled
      refine .step ?_
      rw [Ternary.step, single]
      exact .operand
  | @step inner innerTruthy innerFalsy truthyValue later ih =>
      refine .step ?_
      rw [step_nested]
      apply ih _ settlesFalsy.pass
      rw [passes_step, passes_step]
      omega

section

variable {size : α → Nat} (larger : ∀ condition first second, size condition <
  size (join condition first second))

include larger

/-- What a ternary settles to has the condition, or what has grown out of it, in front. -/
theorem Settles.size_le {value : α}
    (settles : (Ternary.branch condition truthy falsy).Settles join value) :
    ∃ grown first second, value = join grown first second ∧ size condition ≤ size grown := by
  generalize tree_eq : Ternary.branch condition truthy falsy = tree at settles
  induction settles generalizing condition truthy falsy with
  | operand => cases tree_eq
  | @step _ _ _ value later ih =>
      obtain ⟨rfl, rfl, rfl⟩ := Ternary.branch.inj tree_eq
      cases truthy with
      | operand truthyValue =>
          rw [Ternary.step] at later ih
          cases behind : falsy.step join with
          | operand falsyValue =>
              rw [behind] at later
              cases later
              exact ⟨condition, truthyValue, falsyValue, rfl, Nat.le_refl _⟩
          | branch inner innerTruthy innerFalsy =>
              rw [behind] at ih
              obtain ⟨grown, first, second, rfl, grows⟩ := ih rfl
              have larger := larger condition truthyValue inner
              exact ⟨grown, first, second, rfl, by omega⟩
      | branch inner innerTruthy innerFalsy => exact ih rfl

/-- If the false branch does not keep pace, the ternary gets a larger condition. -/
theorem Settles.size_lt {value : α} (late : truthy.passes + 1 < falsy.passes)
    (settles : (Ternary.branch condition truthy falsy).Settles join value) :
    ∃ grown first second, value = join grown first second ∧ size condition < size grown := by
  generalize tree_eq : Ternary.branch condition truthy falsy = tree at settles
  induction settles generalizing condition truthy falsy with
  | operand => cases tree_eq
  | @step _ _ _ value later ih =>
      obtain ⟨rfl, rfl, rfl⟩ := Ternary.branch.inj tree_eq
      have passes_eq : (falsy.step join).passes = falsy.passes - 1 := passes_step falsy
      cases truthy with
      | operand truthyValue =>
          rw [Ternary.step] at later
          simp only [passes] at late
          cases behind : falsy.step join with
          | operand falsyValue =>
              rw [behind] at passes_eq
              simp only [passes] at passes_eq
              omega
          | branch inner innerTruthy innerFalsy =>
              -- The false branch is not done when the true branch is, so its condition takes in
              -- the one in front.
              rw [behind] at later
              obtain ⟨grown, first, second, rfl, grows⟩ := later.size_le larger
              have larger := larger condition truthyValue inner
              exact ⟨grown, first, second, rfl, by omega⟩
      | branch inner innerTruthy innerFalsy =>
          refine ih ?_ rfl
          rw [passes_step, passes_eq]
          simp only [passes] at late ⊢
          omega

/-- The passes come to the value of the tree exactly if all false branches keep pace. -/
theorem Settles.eq_value_iff
    (injective : ∀ {a b c a' b' c'}, join a b c = join a' b' c' → a = a' ∧ b = b' ∧ c = c')
    {value : α} (settles : tree.Settles join value) :
    value = tree.value join ↔ tree.KeepsPace := by
  induction tree generalizing value with
  | operand =>
      cases settles
      simp [Ternary.value, KeepsPace]
  | branch condition truthy falsy ihTruthy ihFalsy =>
      obtain ⟨truthyValue, settlesTruthy⟩ : ∃ value, truthy.Settles join value :=
        exists_settles truthy
      obtain ⟨falsyValue, settlesFalsy⟩ : ∃ value, falsy.Settles join value :=
        exists_settles falsy
      by_cases inTime : falsy.passes ≤ truthy.passes + 1
      · obtain rfl := settles.unique (Settles.branch inTime settlesTruthy settlesFalsy)
        rw [Ternary.value, KeepsPace, ← ihTruthy settlesTruthy, ← ihFalsy settlesFalsy]
        constructor
        · intro same
          obtain ⟨_, truthy_eq, falsy_eq⟩ := injective same
          exact ⟨inTime, truthy_eq, falsy_eq⟩
        · rintro ⟨_, rfl, rfl⟩
          rfl
      · obtain ⟨grown, first, second, rfl, grows⟩ := settles.size_lt larger (by omega)
        constructor
        · intro same
          obtain ⟨rfl, _, _⟩ := injective same
          omega
        · rintro ⟨keeps, _⟩
          exact absurd keeps inTime

example : (Ternary.branch 0 (.operand 1) (.branch 2 (.operand 3) (.operand 4))).KeepsPace := by
  decide

example : ¬(Ternary.branch 0 (.operand 1)
    (.branch 2 (.branch 3 (.operand 4) (.operand 5)) (.operand 6))).KeepsPace := by
  decide

end

/-! ### Changing all values -/

section

variable {changed : β → β → β → β} {change : α → β}
  (agrees : ∀ condition first second, change (join condition first second) =
    changed (change condition) (change first) (change second))

include agrees

theorem step_map (tree : Ternary α) :
    (tree.map change).step changed = (tree.step join).map change := by
  have mapFirst_map : ∀ (tree : Ternary α) (condition first : α),
      (tree.map change).mapFirst (changed (change condition) (change first)) =
        (tree.mapFirst (join condition first)).map change := by
    intro tree condition first
    cases tree <;> simp [map, mapFirst, agrees]
  fun_induction Ternary.step join tree with
  | case1 => rfl
  | case2 condition truthy falsy ih =>
      rw [map, map, Ternary.step, ih, mapFirst_map]
  | case3 condition truthy falsy notOperand ihTruthy ihFalsy =>
      cases truthy with
      | operand value => exact absurd rfl (notOperand value)
      | branch inner innerTruthy innerFalsy =>
          rw [map, map, step_nested, ihFalsy, ← map, ihTruthy, map]

theorem Settles.map {value : α} (settles : tree.Settles join value) :
    (tree.map change).Settles changed (change value) := by
  induction settles with
  | operand => exact .operand
  | step _ ih =>
      rw [← step_map agrees] at ih
      exact .step ih

end

end Ternary

end Parlance.Arithmetic
