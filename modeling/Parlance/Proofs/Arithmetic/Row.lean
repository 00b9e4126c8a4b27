import Parlance.Proofs.Arithmetic.Ternary

/-!
# Rows

Operands with question marks and colons between them. A tree of ternaries is spelled by one row, and
a pass over the row does to it what it does to the tree. The rows that spell trees are those in which
the marks are balanced, and a pass does not change whether they are.
-/

namespace Parlance.Arithmetic

/-- The two symbols of ternaries. -/
inductive Mark where
  | question
  | colon
  deriving Repr, DecidableEq

/-- The text of the symbol. -/
def Mark.symbol : Mark → String
  | question => "?"
  | colon => ":"

theorem Mark.symbol_injective {left right : Mark} (same : left.symbol = right.symbol) :
    left = right := by
  cases left <;> cases right <;> first | rfl | exact absurd same (by decide)

/-- Operands with marks between them. -/
inductive Row (α : Type) where
  | last (value : α)
  | link (value : α) (mark : Mark) (rest : Row α)
  deriving Repr, DecidableEq

variable {α β : Type} (join : α → α → α → α)

namespace Row

/-- The row, then a mark, then another row. -/
def before : Row α → Mark → Row α → Row α
  | last value, mark, rest => link value mark rest
  | link value first inner, mark, rest => link value first (inner.before mark rest)

/-- The row with its first operand changed. -/
def mapFirst (change : α → α) : Row α → Row α
  | last value => last (change value)
  | link value mark rest => link (change value) mark rest

/-- One pass: where a single operand stands between a question mark and a colon, the condition is
joined with it and with what the pass has made of the operand behind the colon. -/
def pass : Row α → Row α
  | last value => last value
  | link condition .question (link truthy .colon rest) =>
      rest.pass.mapFirst (join condition truthy)
  | link value mark rest => link value mark rest.pass

/-- The number of operands and marks. -/
def length : Row α → Nat
  | last _ => 1
  | link _ _ rest => rest.length + 2

/-- The row with all its operands changed. -/
def map (change : α → β) : Row α → Row β
  | last value => last (change value)
  | link value mark rest => link (change value) mark (rest.map change)

/-- With this many question marks open before the row, every colon closes one, and none is left
open at the end. -/
def Balanced : Nat → Row α → Prop
  | opened, last _ => opened = 0
  | opened, link _ .question rest => rest.Balanced (opened + 1)
  | 0, link _ .colon _ => False
  | opened + 1, link _ .colon rest => rest.Balanced opened

end Row

/-- The row that spells the tree. -/
def Ternary.row : Ternary α → Row α
  | operand value => .last value
  | branch condition truthy falsy => .link condition .question (truthy.row.before .colon falsy.row)

/-- The row that spells the tree and then other trees, with colons between them. -/
def Ternary.rowOfAll : Ternary α → List (Ternary α) → Row α
  | tree, [] => tree.row
  | tree, next :: others => tree.row.before .colon (next.rowOfAll others)

theorem Ternary.row_mapFirst (change : α → α) (tree : Ternary α) :
    (tree.mapFirst change).row = tree.row.mapFirst change := by
  cases tree <;> rfl

namespace Row

variable {join} {tree other : Ternary α} {row rest others : Row α}

theorem before_before (row : Row α) (first second : Mark) (rest others : Row α) :
    (row.before first rest).before second others =
      row.before first (rest.before second others) := by
  induction row with
  | last => rfl
  | link _ _ _ ih => simp [before, ih]

theorem length_before (row : Row α) (mark : Mark) (rest : Row α) :
    (row.before mark rest).length = row.length + rest.length + 1 := by
  induction row with
  | last => simp only [before, length]; omega
  | link _ _ _ ih => simp only [before, length, ih]; omega

theorem map_before (change : α → β) (row : Row α) (mark : Mark) (rest : Row α) :
    (row.before mark rest).map change = (row.map change).before mark (rest.map change) := by
  induction row with
  | last => rfl
  | link _ _ _ ih => rw [before, map, ih, map, before]

theorem map_row (change : α → β) (tree : Ternary α) :
    tree.row.map change = (tree.map change).row := by
  induction tree with
  | operand => rfl
  | branch condition truthy falsy ihTruthy ihFalsy =>
      rw [Ternary.row, map, map_before, ihTruthy, ihFalsy, Ternary.map, Ternary.row]

theorem mapFirst_before (change : α → α) (row : Row α) (mark : Mark) (rest : Row α) :
    (row.mapFirst change).before mark rest = (row.before mark rest).mapFirst change := by
  cases row <;> rfl

/-- A pass goes past a condition with a ternary between its marks. -/
theorem pass_nested (condition inner : α) (innerTruthy innerFalsy : Ternary α) (rest : Row α) :
    (link condition .question
        ((Ternary.branch inner innerTruthy innerFalsy).row.before .colon rest)).pass join =
      link condition .question
        (((Ternary.branch inner innerTruthy innerFalsy).row.before .colon rest).pass join) :=
  rfl

/-- In front of a colon, a pass makes of a row what it makes of the tree that the row spells. -/
theorem pass_row_before (tree : Ternary α) (rest : Row α) :
    (tree.row.before .colon rest).pass join =
      (tree.step join).row.before .colon (rest.pass join) := by
  induction tree generalizing rest with
  | operand => rfl
  | branch condition truthy falsy ihTruthy ihFalsy =>
      rw [Ternary.row, before, before_before]
      cases truthy with
      | operand value =>
          rw [Ternary.row, before, pass, ihFalsy, Ternary.step, Ternary.row_mapFirst,
            mapFirst_before]
      | branch inner innerTruthy innerFalsy =>
          rw [pass_nested, ihTruthy, ihFalsy, Ternary.step_nested]
          generalize (Ternary.branch inner innerTruthy innerFalsy).step join = truthy
          rw [Ternary.row, before, before_before]

/-- A pass makes of a row what it makes of the tree that the row spells. -/
theorem pass_row (tree : Ternary α) : tree.row.pass join = (tree.step join).row := by
  induction tree with
  | operand => rfl
  | branch condition truthy falsy ihTruthy ihFalsy =>
      cases truthy with
      | operand value => rw [Ternary.row, Ternary.row, before, pass, ihFalsy, Ternary.step,
          Ternary.row_mapFirst]
      | branch inner innerTruthy innerFalsy =>
          rw [Ternary.row, pass_nested, pass_row_before, ihFalsy, Ternary.step_nested, Ternary.row]

/-- Every condition brings two marks and two more operands. -/
theorem length_row (tree : Ternary α) : tree.row.length = 4 * tree.branches + 1 := by
  induction tree with
  | operand => rfl
  | branch condition truthy falsy ihTruthy ihFalsy =>
      rw [Ternary.row, length, length_before, ihTruthy, ihFalsy, Ternary.branches]
      omega

/-! ### Balance -/

@[simp] theorem balanced_mapFirst {opened : Nat} (change : α → α) (row : Row α) :
    (row.mapFirst change).Balanced opened ↔ row.Balanced opened := by
  cases row with
  | last => rfl
  | link value mark rest => cases mark <;> cases opened <;> rfl

@[simp] theorem balanced_map {opened : Nat} (change : α → β) (row : Row α) :
    (row.map change).Balanced opened ↔ row.Balanced opened := by
  induction row generalizing opened with
  | last => rfl
  | link value mark rest ih =>
      cases mark with
      | question => exact ih
      | colon =>
          cases opened with
          | zero => rfl
          | succ opened => exact ih

/-- A pass takes away question marks and colons in pairs. -/
theorem balanced_pass (opened : Nat) (row : Row α) :
    (row.pass join).Balanced opened ↔ row.Balanced opened := by
  fun_induction pass join row generalizing opened with
  | case1 => rfl
  | case2 condition truthy rest ih => rw [balanced_mapFirst, ih, Balanced, Balanced]
  | case3 value mark rest _ ih =>
      cases mark with
      | question => rw [Balanced, Balanced, ih]
      | colon =>
          cases opened with
          | zero => rfl
          | succ opened => rw [Balanced, Balanced, ih]

/-- What spells a tree in front of a colon leaves one question mark open for it. -/
theorem balanced_row_before {opened : Nat} (tree : Ternary α) (rest : Row α) :
    (tree.row.before .colon rest).Balanced (opened + 1) ↔ rest.Balanced opened := by
  induction tree generalizing opened rest with
  | operand => rfl
  | branch condition truthy falsy ihTruthy ihFalsy =>
      rw [Ternary.row, before, before_before, Balanced, ihTruthy, ihFalsy]

theorem balanced_row (tree : Ternary α) : tree.row.Balanced 0 := by
  induction tree with
  | operand => rfl
  | branch condition truthy falsy ihTruthy ihFalsy =>
      rw [Ternary.row, Balanced, balanced_row_before]
      exact ihFalsy

/-- With question marks open before it, a balanced row spells one tree more than there are of
them. -/
theorem exists_rowOfAll {opened : Nat} (balanced : row.Balanced opened) :
    ∃ (tree : Ternary α) (others : List (Ternary α)),
      others.length = opened ∧ row = tree.rowOfAll others := by
  induction row generalizing opened with
  | last value => exact ⟨.operand value, [], balanced.symm, rfl⟩
  | link value mark rest ih =>
      cases mark with
      | question =>
          obtain ⟨truthy, others, count, rfl⟩ := ih balanced
          -- The colon behind the first tree is the one that closes this question mark.
          cases others with
          | nil => cases count
          | cons falsy others =>
              refine ⟨.branch value truthy falsy, others, Nat.succ.inj count, ?_⟩
              cases others with
              | nil => rfl
              | cons next others =>
                  simp only [Ternary.rowOfAll, Ternary.row, before, before_before]
      | colon =>
          cases opened with
          | zero => exact balanced.elim
          | succ opened =>
              obtain ⟨tree, others, rfl, rfl⟩ := ih balanced
              exact ⟨.operand value, tree :: others, rfl, rfl⟩

/-- A balanced row spells a tree. -/
theorem exists_tree (balanced : row.Balanced 0) : ∃ tree : Ternary α, row = tree.row := by
  obtain ⟨tree, others, none, rfl⟩ := exists_rowOfAll balanced
  rw [List.length_eq_zero_iff.1 none]
  exact ⟨tree, rfl⟩

/-- The tree in front of a colon is the only one that is spelled so. -/
theorem row_before_injective {rest others : Row α}
    (same : tree.row.before .colon rest = other.row.before .colon others) :
    tree = other ∧ rest = others := by
  induction tree generalizing other rest others with
  | operand value =>
      cases other with
      | operand otherValue =>
          cases same
          exact ⟨rfl, rfl⟩
      | branch => cases same
  | branch condition truthy falsy ihTruthy ihFalsy =>
      cases other with
      | operand => cases same
      | branch otherCondition otherTruthy otherFalsy =>
          simp only [Ternary.row, before, before_before, link.injEq, true_and] at same
          obtain ⟨rfl, sameTruthy⟩ := same
          obtain ⟨rfl, sameFalsy⟩ := ihTruthy sameTruthy
          obtain ⟨rfl, rfl⟩ := ihFalsy sameFalsy
          exact ⟨rfl, rfl⟩

/-- No row spells two trees. -/
theorem row_injective (same : tree.row = other.row) : tree = other := by
  -- With a colon and any row behind both, they are a case of the lemma above.
  have inFront := congrArg (before · .colon tree.row) same
  exact (row_before_injective inFront).1

end Row

end Parlance.Arithmetic
