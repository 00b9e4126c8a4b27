import Parlance.Proofs.Arithmetic.Conditional

/-!
# Nodes that derive expressions

Derivations are of at least one node and hold no mark of a ternary, so brackets around a derivation
give its expression. Two operands with an operator between them are derived at the operator's level.
-/

namespace Parlance.Arithmetic

variable {inside : Node → Expr → Prop} {node : Node} {nodes others : List Node}
  {expr left right : Expr}

theorem not_isTernaryMark_of_name (named : node.name ≠ operatorName) : ¬node.IsTernaryMark := by
  rintro (writes | writes)
  · exact named writes.1
  · exact named writes.1

theorem IsChain.ternaryFree (chain : IsChain inside nodes expr) :
    ∀ node ∈ nodes, ¬node.IsTernaryMark := by
  have single : ∀ {nodes : List Node} {last : Node}, (∀ node ∈ nodes, ¬node.IsTernaryMark) →
      last.name ≠ operatorName → ∀ node ∈ nodes ++ [last], ¬node.IsTernaryMark := by
    intro nodes last former named node member
    rcases List.mem_append.1 member with member | member
    · exact former node member
    · rw [List.mem_singleton.1 member]
      exact not_isTernaryMark_of_name named
  induction chain with
  | atom atom =>
      intro node member
      apply not_isTernaryMark_of_name
      cases atom with
      | number named _ => simp [List.mem_singleton.1 member, named.2, operatorName]
      | string named _ => simp [List.mem_singleton.1 member, named.2, operatorName]
      | identifier named => simp [List.mem_singleton.1 member, named.2, operatorName]
      | paren named _ => simp [List.mem_singleton.1 member, named.2, operatorName]
  | member _ dotted named ih =>
      rw [List.append_cons]
      exact single (single ih (by simp [dotted.2, operatorName])) (by simp [named.2, operatorName])
  | callEmpty _ named _ ih => exact single ih (by simp [named.2, operatorName])
  | call _ named _ _ ih => exact single ih (by simp [named.2, operatorName])
  | index _ named _ ih => exact single ih (by simp [named.2, operatorName])

/-- No node of a derivation is a mark of a ternary. -/
theorem IsOperand.ternaryFree (operand : IsOperand inside nodes expr) :
    ∀ node ∈ nodes, ¬node.IsTernaryMark := by
  induction operand with
  | post post =>
      induction post with
      | chain chain => exact chain.ternaryFree
      | step _ named _ ih =>
          intro node member
          rcases List.mem_append.1 member with member | member
          · exact ih node member
          · rw [List.mem_singleton.1 member]
            exact not_isTernaryMark_of_name (by simp [named.2, operatorName])
  | unary named _ _ ih =>
      intro node member
      rcases List.mem_cons.1 member with rfl | member
      · exact not_isTernaryMark_of_name (by simp [named.2, operatorName])
      · exact ih node member

theorem IsBinary.ternaryFree {levels : List (List BinaryOperator)}
    (binary : IsBinary inside levels nodes expr) : ∀ node ∈ nodes, ¬node.IsTernaryMark := by
  induction binary with
  | operand operand => exact operand.ternaryFree
  | tighter _ ih => exact ih
  | @applied _ _ _ _ _ operator _ _ _ _ writes _ ihFormer ihLatter =>
      intro node member
      rcases List.mem_append.1 member with member | member
      · exact ihFormer node member
      · rcases List.mem_cons.1 member with rfl | member
        · rintro (marks | marks)
          · exact mark_foreign operator .question
              (String.toList_inj.1 (Option.some.inj (writes.2.symm.trans marks.2)))
          · exact mark_foreign operator .colon
              (String.toList_inj.1 (Option.some.inj (writes.2.symm.trans marks.2)))
        · exact ihLatter node member

theorem IsChain.ne_nil (chain : IsChain inside nodes expr) : nodes ≠ [] := by
  cases chain with
  | atom atom => cases atom <;> simp
  | _ => simp

theorem IsBinary.ne_nil {levels : List (List BinaryOperator)}
    (binary : IsBinary inside levels nodes expr) : nodes ≠ [] := by
  induction binary with
  | operand operand =>
      cases operand with
      | post post =>
          cases post with
          | chain chain => exact chain.ne_nil
          | step => simp
      | unary => simp
  | tighter _ ih => exact ih
  | applied => simp

/-- Brackets around nodes that derive an expression give it. -/
theorem IsBinary.gives (derived : IsSequence Gives node.children expr) : Gives node expr :=
  (gives_iff_isSequence derived.ternaryFree).2 derived

theorem IsChain.isOperand (chain : IsChain inside nodes expr) : IsOperand inside nodes expr :=
  .post (.chain chain)

/-- Two operands with an operator of one of the levels between them. -/
theorem IsOperand.applied {levels : List (List BinaryOperator)} {operator : BinaryOperator}
    (among : ∃ level ∈ levels, operator ∈ level) (former : IsOperand inside nodes left)
    (writes : node.WritesBetween operator.symbol) (latter : IsOperand inside others right) :
    IsBinary inside levels (nodes ++ node :: others) (.binary .nowhere operator left right) := by
  induction levels with
  | nil => simp at among
  | cons level levels ih =>
      by_cases here : operator ∈ level
      · exact .applied (former.isBinary _) here writes (latter.isBinary _)
      · refine .tighter (ih ?_)
        simpa [here] using among

theorem exists_level {operator : BinaryOperator} (noComma : operator ≠ .comma) :
    ∃ level ∈ BinaryOperator.levels.reverse, operator ∈ level := by
  cases operator <;> first | exact absurd rfl noComma | decide

end Parlance.Arithmetic
