import Parlance.Proofs.Arithmetic.Item
import Parlance.Proofs.Arithmetic.Row
import Parlance.Proofs.Arithmetic.Scan

/-!
# Passes for ternaries

Once all other operators are reduced, a work list with ternaries is a row: expressions with question
marks and colons between them. One pass from right to left does to the list what `Row.pass` does to
the row, so the repeated passes settle a list that spells a tree, and leave a mark behind in any
other.
-/

namespace Parlance.Arithmetic

/-- The item is this mark. -/
def Mark.Marks (mark : Mark) (item : Item) : Prop := item.symbol? = some mark.symbol

/-- The items are the operands and marks of the row. -/
inductive Lists : Row Expr → List Item → Prop where
  | last {value} : Lists (.last value) [.expr value]
  | link {value mark item rest items} (marks : mark.Marks item) (behind : Lists rest items) :
      Lists (.link value mark rest) (.expr value :: item :: items)

/-- The ternary that a pass makes. -/
def joined (condition truthy falsy : Expr) : Expr :=
  .ternary (Origin.spanning operatorName condition.origin
    (Origin.spanning operatorName truthy.origin falsy.origin)) condition truthy falsy

variable {mark : Mark} {item : Item} {items left : List Item} {row rest : Row Expr} {value : Expr}

/-! ### Marks -/

theorem Mark.Marks.isQuestion_iff (marks : mark.Marks item) :
    item.isQuestion = true ↔ mark = .question := by
  rw [Item.isQuestion, marks]
  cases mark <;> simp [Mark.symbol]

theorem Mark.Marks.isColon_iff (marks : mark.Marks item) :
    item.isColon = true ↔ mark = .colon := by
  rw [Item.isColon, marks]
  cases mark <;> simp [Mark.symbol]

theorem Mark.Marks.exists_raw (marks : mark.Marks item) :
    ∃ node inside, item = .raw node inside := by
  obtain ⟨node, inside, rfl, _⟩ := Item.symbol?_eq_some_iff.1 marks
  exact ⟨node, inside, rfl⟩

/-- In front of a mark, a pass makes nothing. -/
theorem ternaryOf?_of_marks {previous current : Item} (marks : mark.Marks item) :
    ternaryOf? left previous current item = none := by
  obtain ⟨node, inside, rfl⟩ := marks.exists_raw
  cases previous <;> rfl

theorem isQuestion_exclusive (opens : item.isQuestion = true) :
    (item.isColon || item.isBranches) = false := by
  cases item with
  | raw node inside =>
      rw [Item.isQuestion, beq_iff_eq] at opens
      simp [Item.isColon, Item.isBranches, opens]
  | _ => simp [Item.isQuestion, Item.symbol?] at opens

/-- No items lie between a colon and its question mark exactly if the question mark comes first. -/
theorem openQuestion_eq_zero_iff :
    openQuestion 0 items = some 0 ↔ ∃ question ∈ items.head?, question.isQuestion = true := by
  cases items with
  | nil => simp [openQuestion]
  | cons item rest =>
      simp only [openQuestion, List.head?_cons, Option.mem_some_iff, exists_eq_left']
      cases opens : item.isQuestion with
      | true => simp [isQuestion_exclusive opens]
      | false => split <;> simp

/-- The search for the question mark passes an operand. -/
theorem openQuestion_cons_expr :
    openQuestion 0 (.expr value :: left) = (openQuestion 0 left).map (· + 1) := by
  simp [openQuestion, Item.isColon, Item.isBranches, Item.isQuestion, Item.symbol?]

/-- A colon closes the question mark that stands right before the operand at its left. -/
theorem closesNearest_iff :
    closesNearest (.expr value :: left) = true ↔
      ∃ item, left.head? = some item ∧ item.isQuestion = true := by
  have nearest : closesNearest (.expr value :: left) = true ↔
      openQuestion 0 (left.take 1) = some 0 := by
    simp [closesNearest, openQuestion_cons_expr]
  rw [nearest, openQuestion_eq_zero_iff, List.head?_take, if_neg Nat.one_ne_zero]
  rfl

theorem closesNearest_of_colon (closes : Mark.colon.Marks item) :
    closesNearest (.expr value :: item :: left) = false := by
  rw [Bool.eq_false_iff]
  intro nearest
  obtain ⟨_, ⟨⟩, opens⟩ := closesNearest_iff.1 nearest
  cases closes.isQuestion_iff.1 opens

/-! ### One pass -/

theorem Lists.exists_first (lists : Lists row items) :
    ∃ first behind, items = .expr first :: behind := by
  cases lists <;> exact ⟨_, _, rfl⟩

theorem Lists.mapFirst (lists : Lists row items) (change : Expr → Expr) :
    ∃ first behind, items = .expr first :: behind ∧
      Lists (row.mapFirst change) (.expr (change first) :: behind) := by
  cases lists with
  | last => exact ⟨_, _, rfl, .last⟩
  | link marks behind => exact ⟨_, _, rfl, .link marks behind⟩

theorem Lists.length_eq (lists : Lists row items) : items.length = row.length := by
  induction lists with
  | last => rfl
  | link _ _ ih => rw [List.length_cons, List.length_cons, ih, Row.length]

/-- A list is that of one row. -/
theorem Lists.unique {other : Row Expr} (lists : Lists row items) (again : Lists other items) :
    row = other := by
  induction lists generalizing other with
  | last =>
      cases again
      rfl
  | link marks _ ih =>
      cases again with
      | @link _ mark _ _ _ marksAgain behind =>
          have same := Option.some.inj (marks.symm.trans marksAgain)
          rw [ih behind, Mark.symbol_injective same]

/-- A pass goes on over a mark that makes nothing. -/
theorem passTernaries_keep {behind : List Item} {first : Expr} (marks : mark.Marks item)
    (idle : mark = .colon → closesNearest (.expr value :: left) = false) :
    passTernaries (item :: .expr value :: left) (.expr first :: behind) =
      passTernaries left (.expr value :: item :: .expr first :: behind) := by
  have noBranches : ternaryOf? left (.expr value) item (.expr first) = none := by
    simp only [ternaryOf?, Bool.and_eq_true, marks.isColon_iff, ite_eq_right_iff, reduceCtorEq]
    rintro ⟨isColon, closes⟩
    rw [idle isColon] at closes
    cases closes
  rw [passTernaries, noBranches]
  cases left with
  | nil => rfl
  | cons previous left => rw [passTernaries, ternaryOf?_of_marks marks]

/-- A pass joins a condition with a single operand between its marks and with what is behind. -/
theorem passTernaries_join {question colon : Item} {behind : List Item}
    {condition truthy falsy : Expr} (opens : Mark.question.Marks question)
    (closes : Mark.colon.Marks colon) :
    passTernaries (colon :: .expr truthy :: question :: .expr condition :: left)
        (.expr falsy :: behind) =
      passTernaries left (.expr (joined condition truthy falsy) :: behind) := by
  have nearest : closesNearest (.expr truthy :: question :: .expr condition :: left) = true :=
    closesNearest_iff.2 ⟨question, rfl, opens.isQuestion_iff.2 rfl⟩
  have branches : ternaryOf? (question :: .expr condition :: left) (.expr truthy) colon
      (.expr falsy) = some (.branches truthy falsy
        (Origin.spanning operatorName truthy.origin falsy.origin)) := by
    simp [ternaryOf?, nearest, closes.isColon_iff]
  rw [passTernaries, branches]
  simp [passTernaries, ternaryOf?, opens.isQuestion_iff, joined]

/-- One pass over the end of a list does to it what a pass does to its row. The end starts with no
operand that stands between a question mark and a colon. -/
theorem Lists.pass (lists : Lists row items) :
    ∃ passed, Lists (row.pass joined) passed ∧
      ∀ left, (∀ value rest, row = .link value .colon rest →
          closesNearest (.expr value :: left) = false) →
        passTernaries (items.reverse ++ left) [] = passTernaries left passed := by
  fun_induction Row.pass joined row generalizing items with
  | case1 value =>
      cases lists
      refine ⟨_, .last, ?_⟩
      intro left _
      cases left <;> rfl
  | case2 condition truthy rest ih =>
      cases lists with
      | link opens behind =>
          cases behind with
          | link closes behind =>
              obtain ⟨passed, listsPassed, goes⟩ := ih behind
              obtain ⟨first, others, rfl, made⟩ := listsPassed.mapFirst (joined condition truthy)
              refine ⟨_, made, ?_⟩
              intro left _
              simp only [List.reverse_cons, List.append_assoc, List.cons_append, List.nil_append]
              rw [goes, passTernaries_join opens closes]
              intro value rest _
              exact closesNearest_of_colon closes
  | case3 value mark rest notSingle ih =>
      -- A colon makes nothing here: its question mark is not next to the operand before it.
      cases lists with
      | @link _ _ item _ items marks behind =>
          obtain ⟨passed, listsPassed, goes⟩ := ih behind
          refine ⟨_, .link marks listsPassed, ?_⟩
          intro left notNearest
          obtain ⟨first, others, rfl⟩ := listsPassed.exists_first
          simp only [List.reverse_cons, List.append_assoc, List.cons_append, List.nil_append]
          rw [goes, passTernaries_keep marks]
          · rintro rfl
            exact notNearest _ _ rfl
          · rintro inner after rfl
            cases mark with
            | question => exact (notSingle inner after rfl rfl).elim
            | colon => exact closesNearest_of_colon marks

/-- One pass over a whole list does to it what a pass does to its row. -/
theorem Lists.passTernaries (lists : Lists row items) :
    Lists (row.pass joined) (passTernaries items.reverse []) := by
  obtain ⟨passed, listsPassed, goes⟩ := lists.pass
  have whole := goes [] fun value _ _ => by
    rw [Bool.eq_false_iff]
    intro nearest
    obtain ⟨_, ⟨⟩, _⟩ := closesNearest_iff.1 nearest
  rw [List.append_nil] at whole
  rw [whole, Arithmetic.passTernaries]
  exact listsPassed

/-! ### All passes -/

theorem reduceTernaries_single (fuel : Nat) : reduceTernaries fuel [.expr value] = [.expr value] := by
  cases fuel <;> rfl

/-- The passes settle a list that spells a tree, as long as there may be one for each condition. -/
theorem Ternary.Settles.reduces {tree : Ternary Expr} (settles : tree.Settles joined value)
    {fuel : Nat} (enough : tree.branches ≤ fuel) (lists : Lists tree.row items) :
    reduceTernaries fuel items = [.expr value] := by
  induction settles generalizing fuel items with
  | operand =>
      cases lists
      exact reduceTernaries_single fuel
  | @step condition truthy falsy value later ih =>
      generalize whole : Ternary.branch condition truthy falsy = tree at *
      have fewer : (tree.step joined).branches ≤ tree.branches - 1 := Ternary.branches_step tree
      have some : 0 < tree.branches := by
        subst whole
        exact Nat.succ_pos _
      have passed := lists.passTernaries
      rw [Row.pass_row] at passed
      cases fuel with
      | zero => omega
      | succ fuel =>
          have shorter : (passTernaries items.reverse []).length ≠ items.length := by
            rw [passed.length_eq, lists.length_eq, Row.length_row, Row.length_row]
            omega
          rw [reduceTernaries, if_neg shorter]
          exact ih (by omega) passed

/-- The passes do not change whether the marks are balanced. -/
theorem Lists.reduceTernaries (lists : Lists row items) (fuel : Nat) :
    ∃ reduced, Lists reduced (reduceTernaries fuel items) ∧
      (reduced.Balanced 0 ↔ row.Balanced 0) := by
  induction fuel generalizing row items with
  | zero => exact ⟨row, lists, Iff.rfl⟩
  | succ fuel ih =>
      rw [Arithmetic.reduceTernaries]
      split
      · exact ⟨row, lists, Iff.rfl⟩
      · obtain ⟨reduced, listsReduced, balanced⟩ := ih lists.passTernaries
        exact ⟨reduced, listsReduced, balanced.trans (Row.balanced_pass 0 row)⟩

/-! ### What is left -/

/-- A level without operators in the list leaves the list as it is. -/
theorem reduceLevel_of_none {level : List BinaryOperator} {current : Item}
    (idle : ∀ item ∈ items, item.operator? level = none) :
    reduceLevel level current items = current :: items := by
  fun_induction reduceLevel level current items with
  | case1 => rfl
  | case2 => rfl
  | case3 item rest _ operator _ found ih =>
      rw [idle item (by simp)] at found
      cases found
  | case4 current item after rest _ ih =>
      rw [ih fun item member => idle item (List.mem_cons_of_mem _ member)]

theorem Lists.operator?_eq_none (lists : Lists row items) {level : List BinaryOperator}
    (foreign : ∀ operator ∈ level, ∀ mark : Mark, operator.symbol ≠ mark.symbol) :
    ∀ item ∈ items, item.operator? level = none := by
  induction lists with
  | last =>
      intro item member
      rw [List.mem_singleton.1 member]
      rfl
  | @link value mark item rest items marks behind ih =>
      have noOperator : item.operator? level = none := by
        rw [Item.operator?, marks, Option.bind_some, BinaryOperator.ofSymbolAmong?]
        exact List.find?_eq_none.2 fun operator among => by simpa using foreign operator among mark
      intro item member
      rcases List.mem_cons.1 member with rfl | member
      · rfl
      · rcases List.mem_cons.1 member with rfl | member
        · exact noOperator
        · exact ih item member

/-- There is no mark among the operators. -/
theorem mark_foreign (operator : BinaryOperator) (mark : Mark) : operator.symbol ≠ mark.symbol := by
  cases operator <;> cases mark <;> decide

/-- The pass for commas leaves a row as it is. -/
theorem Lists.reduceLevel_eq (lists : Lists row items) (level : List BinaryOperator) :
    fromFirst (reduceLevel level) items = items := by
  have idle : ∀ item ∈ items, item.operator? level = none :=
    lists.operator?_eq_none fun operator _ => mark_foreign operator
  cases lists with
  | last => rfl
  | link marks behind =>
      exact reduceLevel_of_none fun item member => idle item (List.mem_cons_of_mem _ member)

/-- A mark that is left over makes the ternary incomplete. -/
theorem Lists.finish_eq {origin : Origin} (lists : Lists row items) (marked : ¬row.Balanced 0) :
    ∃ offset, finish items origin = .error (.incompleteTernary offset) := by
  cases lists with
  | last => exact absurd rfl marked
  | @link value mark item rest items marks behind =>
      have isMark : (item.isQuestion || item.isColon || item.isBranches) = true := by
        cases mark <;> simp [marks.isQuestion_iff, marks.isColon_iff]
      have noMark : ((Item.expr value).isQuestion || (Item.expr value).isColon ||
          (Item.expr value).isBranches) = false := rfl
      exact ⟨item.position, by simp [finish, noMark, isMark]⟩

end Parlance.Arithmetic
