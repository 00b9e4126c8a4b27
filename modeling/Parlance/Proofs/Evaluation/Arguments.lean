import Parlance.Proofs.Arithmetic.Calling
import Parlance.Proofs.Arithmetic.Segment
import Parlance.Proofs.Evaluation.Transparency
import Parlance.Proofs.Evaluation.Discipline

/-!
# Argument lists

A call passes one value for each of the segments between the commas in its brackets, each evaluated
once and in their order, and nothing if the brackets are empty. Segments are cut at the commas between
these brackets alone, so a comma list in parentheses is one argument.
-/

namespace Parlance

section

variable {α β : Type}

/-- Steps for all items, one after the other, give one result for each. -/
theorem Eval.length_of_mapM {step : α → Eval β} {items : List α} {results : List β}
    {machine there : Machine} (done : (items.mapM step).runOn machine = (.ok results, there)) :
    results.length = items.length := by
  induction items generalizing results machine with
  | nil =>
      cases done
      rfl
  | cons item rest ih =>
      rw [List.mapM_cons] at done
      obtain ⟨first, middle, _, behind⟩ := Eval.runOn_bind_eq_ok_iff.1 done
      obtain ⟨others, last, doneRest, finished⟩ := Eval.runOn_bind_eq_ok_iff.1 behind
      cases finished
      rw [List.length_cons, List.length_cons, ih doneRest]

end

/-- Both runs fail with the same error, or both succeed and the second one gives the last value of the
first one. Either way they leave the same machine. -/
inductive EndInLast : Except EvalError (List Value) × Machine → Except EvalError Value × Machine →
    Prop where
  | values {values value machine} (last : values.getLast? = some value) :
      EndInLast (.ok values, machine) (.ok value, machine)
  | error {fault machine} : EndInLast (.error fault, machine) (.error fault, machine)

namespace Expr

/-- What the call calls. -/
def called? : Expr → Option Expr
  | call _ callee _ => some callee
  | callEmpty _ callee => some callee
  | _ => none

/-- The call has these arguments: it evaluates what it calls and then each of them once, from left to
right, and if it comes to a function, it calls this with their values. -/
def HasArguments (call : Expr) (parts : List Expr) : Prop :=
  ∃ callee, call.called? = some callee ∧ ∀ host context,
    call.evaluate host context = do
      let (receiver, target) ← (callee.meaning host context).callee
      let values ← parts.mapM (evaluate host context)
      match target with
      | .function function => function.call host receiver values
      | _ => throw (.notCallable callee.canonical)

variable {host : Host} {context : Context}

theorem evaluateList_of_single {expr : Expr} (single : expr.isSequence = false) :
    expr.evaluateList host context = return [← expr.evaluate host context] :=
  arguments_of_single host context single

/-- As a list, an expression has the values of its parts. -/
theorem evaluateList_eq_mapM (expr : Expr) :
    expr.evaluateList host context = expr.parts.mapM (evaluate host context) := by
  have whenSingle {expr : Expr} (single : expr.isSequence = false) :
      expr.evaluateList host context = expr.parts.mapM (evaluate host context) := by
    rw [parts_of_single single, evaluateList_of_single single]
    simp
  induction expr with
  | binary origin operator left right ih _ =>
      cases operator with
      | comma =>
          rw [parts, List.mapM_append, ← ih]
          simp only [List.mapM_cons, List.mapM_nil, pure_bind, bind_assoc]
          rfl
      | _ => exact whenSingle rfl
  | _ => exact whenSingle rfl

/-- As a list and by itself, an expression comes to the same end. -/
theorem evaluateList_endInLast (expr : Expr) (machine : Machine) :
    EndInLast ((expr.evaluateList host context).runOn machine)
      ((expr.evaluate host context).runOn machine) := by
  have whenSingle {expr : Expr} (single : expr.isSequence = false) :
      EndInLast ((expr.evaluateList host context).runOn machine)
        ((expr.evaluate host context).runOn machine) := by
    rw [evaluateList_of_single single, Eval.runOn_bind]
    obtain ⟨fault | value, there⟩ := (expr.evaluate host context).runOn machine
    · exact .error
    · exact .values rfl
  induction expr with
  | binary origin operator left right ih _ =>
      cases operator with
      | comma =>
          have list : (binary origin .comma left right).evaluateList host context = (do
              let values ← left.evaluateList host context
              return values ++ [← right.evaluate host context]) := rfl
          have value : (binary origin .comma left right).evaluate host context = (do
              let _ ← left.evaluate host context
              right.evaluate host context) := rfl
          rw [list, value, Eval.runOn_bind, Eval.runOn_bind]
          generalize (left.evaluateList host context).runOn machine = former at ih
          generalize (left.evaluate host context).runOn machine = formerValue at ih
          cases ih with
          | error => exact .error
          | @values values _ there _ =>
              dsimp only
              rw [Eval.runOn_bind]
              obtain ⟨fault | value, there⟩ := (right.evaluate host context).runOn there
              · exact .error
              · exact .values (by simp)
      | _ => exact whenSingle rfl
  | _ => exact whenSingle rfl

end Expr

namespace Arithmetic

/-- The call has one argument for each segment in the brackets, what the segment compiles to by itself,
and passes as many values as there are segments. -/
structure PassesSegments (call : Expr) (node : Node) (parts : List Expr) : Prop where
  compiled : List.Forall₂ (fun segment part => ∀ origin, reduce (itemsOf segment) origin = .ok part)
    (Node.segments node.children) parts
  arguments : call.HasArguments parts
  count : ∀ host context machine values there,
    Eval.runOn (parts.mapM (Expr.evaluate host context)) machine = (.ok values, there) →
    values.length = if node.children = [] then 0 else node.children.countP Node.isComma + 1

theorem IsCallOf.passesSegments {call : Expr} {node : Node} (isCall : IsCallOf call node) :
    ∃ parts, PassesSegments call node parts := by
  cases isCall with
  | @callEmpty origin callee _ named closes holdsNothing =>
      have none : Node.segments node.children = [] := by rw [holdsNothing]; rfl
      refine ⟨[], ⟨none ▸ .nil, ⟨callee, rfl, fun _ _ => rfl⟩, ?_⟩⟩
      intro host context machine values there done
      rw [if_pos holdsNothing, Eval.length_of_mapM done]
      rfl
  | @call origin callee arguments _ named closes holdsSome compiled =>
      have segments : Node.segments node.children = node.children.splitOnP Node.isComma := by
        rw [Node.segments, if_neg (by simpa using holdsSome)]
      have parts := segments ▸ parts_of_compileInside compiled
      refine ⟨arguments.parts, ⟨parts, ⟨callee, rfl, fun host context => ?_⟩, ?_⟩⟩
      · rw [← Expr.evaluateList_eq_mapM]
        rfl
      · intro host context machine values there done
        rw [if_neg holdsSome, Eval.length_of_mapM done, ← parts.length_eq,
          Node.length_segments holdsSome]

/-- Every call of a source passes exactly the values of the segments in its brackets. A parenthesis is
one such segment and has the value of what is inside, so the last one of a comma list, since a list of
values and a value always come to the same end. -/
theorem arguments_exact :
    (∀ source made, compile source = .ok made → ∃ tree, grammar.parse .plain source = .ok tree ∧
      List.Forall₂ (fun call node => ∃ parts, PassesSegments call node parts)
        made.calls tree.calls) ∧
    (∀ paren inner, paren.IsGroupOf "paren" → compileInside paren = .ok inner →
      ∃ part : Expr, (∀ origin, reduce (itemsOf [paren]) origin = .ok part) ∧
        ∀ host context, part.evaluate host context = inner.evaluate host context) ∧
    ∀ host context (expr : Expr) machine,
      EndInLast ((expr.evaluateList host context).runOn machine)
        ((expr.evaluate host context).runOn machine) := by
  refine ⟨?_, ?_, fun host context expr machine => expr.evaluateList_endInLast machine⟩
  · intro source made compiled
    obtain ⟨tree, parsed, calls, _⟩ := calls_of_compile compiled
    exact ⟨tree, parsed, calls.imp fun _ _ isCall => isCall.passesSegments⟩
  · intro paren inner isParen inside
    refine ⟨inner.wrap (originOf paren), reduce_paren isParen inside, fun host context => ?_⟩
    cases inner <;> rfl

/-- A call with three segments, the first a comma list in parentheses, and one with none. -/
theorem arguments_exact_nested :
    (∃ made tree, compile "f((a, b), c ? d : e, 1) + g()".toList = .ok made ∧
      grammar.parse .plain "f((a, b), c ? d : e, 1) + g()".toList = .ok tree ∧
      tree.calls.map (fun call => (Node.segments call.children).length) = [3, 0] ∧
      List.Forall₂ (fun call node => ∃ parts, PassesSegments call node parts)
        made.calls tree.calls) ∧
    ∃ paren inner part, paren.IsGroupOf "paren" ∧ compileInside paren = .ok inner ∧
      inner.isSequence = true ∧ (∀ origin, reduce (itemsOf [paren]) origin = .ok part) ∧
      ∀ host context, part.evaluate host context = inner.evaluate host context := by
  obtain ⟨ofSources, ofParens, _⟩ := arguments_exact
  constructor
  · have compiles : (compile "f((a, b), c ? d : e, 1) + g()".toList).isOk = true := by decide +kernel
    have counted : (grammar.parse .plain "f((a, b), c ? d : e, 1) + g()".toList).toOption.map
        (fun tree => tree.calls.map fun call => (Node.segments call.children).length) =
          some [3, 0] := by
      decide +kernel
    cases compiled : compile "f((a, b), c ? d : e, 1) + g()".toList with
    | error fault =>
        rw [compiled] at compiles
        cases compiles
    | ok made =>
        obtain ⟨tree, parsed, passes⟩ := ofSources _ made compiled
        rw [parsed] at counted
        exact ⟨made, tree, rfl, parsed, Option.some.inj counted, passes⟩
  · let paren : Node := .group "paren" 2 6 ['('] [')'] none [] []
      [.token "identifier" 3 1 ['a'] [], .token "operator" 4 1 [','] [],
        .token "identifier" 6 1 ['b'] [' ']]
    have checked : (compileInside paren).toOption.any (·.isSequence) = true := by decide +kernel
    obtain ⟨inner, compiled, sequence⟩ := (Option.any_eq_true ..).1 checked
    rw [toOption_eq_some_iff] at compiled
    obtain ⟨part, reduces, same⟩ := ofParens paren inner ⟨rfl, rfl⟩ compiled
    exact ⟨paren, inner, part, ⟨rfl, rfl⟩, compiled, sequence, reduces, same⟩

end Arithmetic

end Parlance
