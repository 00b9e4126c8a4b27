import Mathlib.Logic.Relation
import Parlance.Proofs.Arithmetic.Window

/-!
# Rewriting

A work list is rewritten by the reductions: a window that one of them accepts is replaced by what it
builds. No pass does anything else. What a pass makes of a list, the list becomes by rewriting, and
if a pass fails, the list becomes one in which an accepted window cannot be built from. So what every
rewriting keeps, all passes keep.
-/

namespace Parlance.Arithmetic

/-- A reduction accepts the former list, and the latter has what it builds in place of what it takes
out. -/
def Rewrites (former latter : List Item) : Prop :=
  ∃ (reduction : Reduction) (place : Nat) (made : Item), reduction.accepts former place = true ∧
    reduction.build (reduction.taken former place) = .ok made ∧
    latter = reduction.replaced former place made

/-- The former list becomes the latter by rewriting. -/
def Becomes : List Item → List Item → Prop := Relation.ReflTransGen Rewrites

/-- A reduction accepts the list, but cannot build from what it takes out. -/
def Fails (items : List Item) (fault : CompileError) : Prop :=
  ∃ (reduction : Reduction) (place : Nat), reduction.accepts items place = true ∧
    reduction.build (reduction.taken items place) = .error fault

/-- The list becomes one in which building fails. -/
def Breaks (items : List Item) (fault : CompileError) : Prop :=
  ∃ middle, Becomes items middle ∧ Fails middle fault

/-- If it succeeds, a pass over the items behind some others does nothing but rewrite; if it fails,
it is because rewriting does. -/
def Runs (left items : List Item) (outcome : Except CompileError (List Item)) : Prop :=
  Yields outcome (fun reduced => Becomes (left ++ items) (left ++ reduced)) (Breaks (left ++ items))

variable {reduction : Reduction} {left right items window middle : List Item} {item made : Item}
  {fault : CompileError} {outcome : Except CompileError (List Item)}

/-! ### Rewriting around a window -/

namespace Reduction

theorem build_eq {result : Except CompileError Item} (builds : reduction.build? window = some result) :
    reduction.build window = result := by
  rw [build, builds]

/-- Around a window there is one step, which ends in one of two ways. -/
theorem Fits.rewrites (fits : reduction.Fits left window)
    (builds : reduction.build? window = some (.ok made)) (right : List Item) :
    Rewrites (left ++ window ++ right) (left ++ made :: right) := by
  refine ⟨reduction, _, made, fits.accepts right, ?_, (fits.replaced_eq right made).symm⟩
  rw [fits.taken_eq, build_eq builds]

theorem Fits.fails (fits : reduction.Fits left window)
    (builds : reduction.build? window = some (.error fault)) (right : List Item) :
    Fails (left ++ window ++ right) fault := by
  refine ⟨reduction, _, fits.accepts right, ?_⟩
  rw [fits.taken_eq, build_eq builds]

end Reduction

/-- Every rewriting is one around a window. -/
theorem Rewrites.exists_fits {former latter : List Item} (rewrites : Rewrites former latter) :
    ∃ (reduction : Reduction) (left window right : List Item) (made : Item),
      former = left ++ window ++ right ∧ latter = left ++ made :: right ∧
        reduction.Fits left window ∧ reduction.build? window = some (.ok made) := by
  obtain ⟨reduction, place, made, accepted, built, rfl⟩ := rewrites
  obtain ⟨left, window, right, rfl, rfl, fits⟩ := Reduction.fitsAt_of_accepts accepted
  obtain ⟨result, builds⟩ := fits.exists_build?
  rw [fits.taken_eq, Reduction.build_eq builds] at built
  subst built
  exact ⟨reduction, left, window, right, made, rfl, fits.replaced_eq right made, fits, builds⟩

/-- Every failure is one at a window. -/
theorem Fails.exists_fits (fails : Fails items fault) :
    ∃ (reduction : Reduction) (left window right : List Item), items = left ++ window ++ right ∧
      reduction.Fits left window ∧ reduction.build? window = some (.error fault) := by
  obtain ⟨reduction, place, accepted, built⟩ := fails
  obtain ⟨left, window, right, rfl, rfl, fits⟩ := Reduction.fitsAt_of_accepts accepted
  obtain ⟨result, builds⟩ := fits.exists_build?
  rw [fits.taken_eq, Reduction.build_eq builds] at built
  subst built
  exact ⟨reduction, left, window, right, rfl, fits, builds⟩

theorem Breaks.of_becomes (becomes : Becomes items middle) (breaks : Breaks middle fault) :
    Breaks items fault := by
  obtain ⟨last, further, fails⟩ := breaks
  exact ⟨last, becomes.trans further, fails⟩

/-! ### Putting runs together -/

namespace Runs

theorem pure (left items : List Item) : Runs left items (.ok items) := Relation.ReflTransGen.refl

theorem of_becomes (becomes : Becomes (left ++ items) (left ++ middle))
    (runs : Runs left middle outcome) : Runs left items outcome := by
  cases outcome with
  | ok reduced => exact becomes.trans runs
  | error fault => exact Breaks.of_becomes becomes runs

theorem bind {next : List Item → Except CompileError (List Item)} (former : Runs left items outcome)
    (latter : ∀ reduced, Runs left reduced (next reduced)) : Runs left items (outcome >>= next) := by
  cases outcome with
  | ok reduced => exact of_becomes former (latter reduced)
  | error fault => exact former

/-- An item that a pass leaves alone can be counted among those before. -/
theorem cons (runs : Runs (left ++ [item]) items outcome) :
    Runs left (item :: items) ((item :: ·) <$> outcome) := by
  have apart (others : List Item) : left ++ [item] ++ others = left ++ item :: others := by simp
  simp only [Runs, apart] at runs
  exact Yields.map runs

/-- A pass replaces a window and goes on. -/
theorem rewrite (fits : reduction.Fits left window)
    (builds : reduction.build? window = some (.ok made)) (further : Runs left (made :: right) outcome) :
    Runs left (window ++ right) outcome := by
  refine of_becomes (.single ?_) further
  simpa using fits.rewrites builds right

/-- A pass replaces a window, if it can build from it, and goes on. -/
theorem replace {α : Type} {change : α → Item} {result : Except CompileError α}
    {next : α → Except CompileError (List Item)} (fits : reduction.Fits left window)
    (builds : reduction.build? window = some (result.map change))
    (further : ∀ value, Runs left (change value :: right) (next value)) :
    Runs left (window ++ right) (result >>= next) := by
  cases result with
  | ok value => exact rewrite fits builds (further value)
  | error fault =>
      refine ⟨_, .refl, ?_⟩
      simpa using fits.fails builds right

end Runs

/-! ### Single items -/

/-- An item that is reduced by itself is a window. -/
theorem reduceAtom_window (item : Item) :
    reduceAtom item = .ok item ∨ ∃ reduction : Reduction, (∀ left, reduction.Fits left [item]) ∧
      reduction.build? [item] = some ((reduceAtom item).map id) := by
  rw [Except.map_id]
  cases item with
  | expr value => exact .inl rfl
  | branches truthy falsy origin => exact .inl rfl
  | raw node inside =>
      cases isToken : node.isToken with
      | true =>
          by_cases number : node.name = "number"
          · refine .inr ⟨.literal, fun _ => .literal (.inl ⟨isToken, number⟩), ?_⟩
            simp only [Reduction.build?, literalOf, reduceAtom, isToken, number, if_true]
            cases readNumber? (textOf node) <;> rfl
          · by_cases string : node.name = "string"
            · refine .inr ⟨.literal, fun _ => .literal (.inr ⟨isToken, string⟩), ?_⟩
              simp only [Reduction.build?, literalOf, reduceAtom, isToken, string, if_true]
              cases readString? (textOf node) <;> rfl
            · by_cases identifier : node.name = "identifier"
              · refine .inr ⟨.symbol, fun _ => .symbol ⟨isToken, identifier⟩, ?_⟩
                simp [Reduction.build?, reduceAtom, isToken, identifier]
              · exact .inl (by simp [reduceAtom, *])
      | false =>
          by_cases paren : node.name = "paren"
          · refine .inr ⟨.group, fun _ => .group ⟨isToken, paren⟩, ?_⟩
            simp [Reduction.build?, reduceAtom, isToken, paren]
          · exact .inl (by simp [reduceAtom, isToken, paren])

theorem reduceAtoms_runs (left items : List Item) : Runs left items (reduceAtoms items) := by
  induction items generalizing left with
  | nil => exact .pure left []
  | cons item rest ih =>
      have behind (made : Item) :
          Runs left (made :: rest) (reduceAtoms rest >>= fun others => .ok (made :: others)) :=
        .cons (ih _)
      rw [reduceAtoms, List.mapM_cons]
      rcases reduceAtom_window item with same | ⟨reduction, fits, builds⟩
      · rw [same]
        exact behind item
      · exact .replace (fits left) builds behind

/-! ### Passes from the left -/

theorem bracketOf?_window {value : Expr} {result : Except CompileError Expr}
    (found : bracketOf? value item = some result) :
    ∃ reduction : Reduction, (∀ left, reduction.Fits left [.expr value, item]) ∧
      reduction.build? [.expr value, item] = some (result.map .expr) := by
  obtain ⟨node, inside, rfl, ⟨named, rfl⟩ | ⟨named, rfl⟩⟩ := bracketOf?_cases found
  · exact ⟨.call, fun _ => .call named, rfl⟩
  · exact ⟨.index, fun _ => .index named, rfl⟩

theorem reduceChains_runs (left : List Item) (current : Item) (rest : List Item) :
    Runs left (current :: rest) (reduceChains current rest) := by
  fun_induction reduceChains current rest generalizing left with
  | case1 => exact .pure left _
  | case2 item value made found =>
      obtain ⟨reduction, fits, builds⟩ := bracketOf?_window found
      have runs : Runs left ([.expr value, item] ++ []) (made >>= fun expr => .ok [.expr expr]) :=
        .replace (fits left) builds fun made => .pure left [.expr made]
      cases made <;> exact runs
  | case3 item value noBracket => exact .pure left _
  | case4 current item notExpr => exact .pure left _
  | case5 item after rest value dot property named dotted ih =>
      obtain ⟨isDot, _, rfl⟩ := Item.token?_eq_some_iff.1 dotted
      obtain ⟨isProperty, _, rfl⟩ := Item.token?_eq_some_iff.1 named
      exact .rewrite (.member isDot isProperty) rfl (ih left)
  | case6 item after rest value made found noMember ih =>
      obtain ⟨reduction, fits, builds⟩ := bracketOf?_window found
      exact .replace (fits left) builds (ih · left)
  | case7 item after rest value noBracket noMember ih => exact .cons (ih _)
  | case8 current item after rest notExpr ih => exact .cons (ih _)

theorem reduceSteps_runs (left : List Item) (current : Item) (rest : List Item) :
    Runs left (current :: rest) (reduceSteps current rest) := by
  fun_induction reduceSteps current rest generalizing left with
  | case1 => exact .pure left _
  | case2 item rest operand node found ih =>
      obtain ⟨named, _, rfl⟩ := Item.token?_eq_some_iff.1 found
      exact .replace (.step named) rfl (ih · left)
  | case3 current item rest noStep ih => exact .cons (ih _)

theorem applied_eq {node : Node} {operator : BinaryOperator}
    (writes : node.WritesBetween operator.symbol) (former latter : Expr) :
    applied node former latter = .ok (binaryOf operator former latter) := by
  have written : String.ofList (textOf node) = operator.symbol := by
    rw [textOf, writes.2, Option.getD_some, String.ofList_toList]
  rw [applied, written, BinaryOperator.ofSymbolAmong?_all, writes.1]
  rfl

theorem reduceLevel_runs (level : List BinaryOperator) (left : List Item) (current : Item)
    (rest : List Item) : Runs left (current :: rest) (.ok (reduceLevel level current rest)) := by
  fun_induction reduceLevel level current rest generalizing left with
  | case1 => exact .pure left _
  | case2 => exact .pure left _
  | case3 item rest former operator latter found ih =>
      obtain ⟨among, node, inside, rfl, writes⟩ := Item.operator?_eq_some_iff.1 found
      have builds : (Reduction.binary level).build? [.expr former, .raw node inside, .expr latter] =
          some (.ok (.expr (binaryOf operator former latter))) := by
        rw [Reduction.build?, applied_eq writes]
        rfl
      exact .rewrite (.binary among writes) builds (ih left)
  | case4 current item after rest idle ih => exact .cons (ih _)

/-! ### Passes from the right -/

theorem reduceUnary_runs (left items : List Item) : Runs left items (reduceUnary items) := by
  induction items generalizing left with
  | nil => exact .pure left []
  | cons item rest ih =>
      have behind := Runs.cons (ih (left ++ [item]))
      rw [reduceUnary]
      cases passed : reduceUnary rest with
      | error fault =>
          rw [passed] at behind
          exact behind
      | ok reduced =>
          rw [passed] at behind
          refine .of_becomes behind ?_
          dsimp only [bind, Except.bind]
          split
          · rename_i node operand others found
            obtain ⟨named, _, rfl⟩ := Item.token?_eq_some_iff.1 found
            exact .replace (.unary named) rfl fun made => .pure left (.expr made :: others)
          · exact .pure left _

/-- What makes branches or a ternary is a window. -/
theorem ternaryOf?_window {previous current next : Item}
    (makes : ternaryOf? left previous current next = some made) :
    ∃ reduction : Reduction, reduction.Fits left.reverse [previous, current, next] ∧
      reduction.build? [previous, current, next] = some (.ok made) := by
  unfold ternaryOf? at makes
  split at makes
  · split at makes
    · rename_i truthy falsy closes
      cases makes
      rw [Bool.and_eq_true] at closes
      obtain ⟨colon, inside, rfl, writes⟩ := Item.isColon_iff.1 closes.1
      obtain ⟨question, nearest, opens⟩ := closesNearest_iff.1 closes.2
      obtain ⟨others, rfl⟩ := List.head?_eq_some_iff.1 nearest
      refine ⟨.branches, .branches (List.reverse_cons ..) opens writes, ?_⟩
      rw [Reduction.build?, writes.1]
    · cases makes
  · split at makes
    · rename_i condition truthy falsy origin opens
      cases makes
      obtain ⟨question, inside, rfl, writes⟩ := Item.isQuestion_iff.1 opens
      refine ⟨.ternary, .ternary writes, ?_⟩
      rw [Reduction.build?, writes.1]
    · cases makes
  · cases makes

theorem passTernaries_runs (left passed : List Item) :
    Runs [] (left.reverse ++ passed) (.ok (passTernaries left passed)) := by
  fun_induction passTernaries left passed with
  | case1 => exact .pure [] _
  | case2 => exact .pure [] _
  | case3 current previous left ih => simpa using ih
  | case4 current previous left next rest made makes ih =>
      obtain ⟨reduction, fits, builds⟩ := ternaryOf?_window makes
      have runs : Runs left.reverse ([previous, current, next] ++ rest)
          (.ok (made :: rest)) := .rewrite fits builds (.pure _ _)
      refine .of_becomes ?_ ih
      simpa [Runs, Yields] using runs
  | case5 current previous left next rest idle ih => simpa using ih

theorem reduceTernaries_runs (fuel : Nat) (items : List Item) :
    Runs [] items (.ok (reduceTernaries fuel items)) := by
  induction fuel generalizing items with
  | zero => exact .pure [] items
  | succ fuel ih =>
      rw [reduceTernaries]
      split
      · exact .pure [] items
      · have pass := passTernaries_runs items.reverse []
        rw [List.reverse_reverse, List.append_nil] at pass
        exact .of_becomes pass (ih _)

/-! ### All passes -/

/-- What the passes leave of a list. -/
def leftOf (items : List Item) : Except CompileError (List Item) := do
  let operands ← reduceOperands items
  let values := reduceAt BinaryOperator.levels.reverse operands
  return fromFirst (reduceLevel [.comma]) (reduceTernaries values.length values)

theorem reduce_eq_leftOf (items : List Item) (origin : Origin) :
    reduce items origin = leftOf items >>= fun reduced => finish reduced origin := by
  rw [reduce_eq, leftOf, bind_assoc]
  rfl

theorem fromFirst_runs (level : List BinaryOperator) (items : List Item) :
    Runs [] items (.ok (fromFirst (reduceLevel level) items)) := by
  cases items with
  | nil => exact .pure [] []
  | cons first rest => exact reduceLevel_runs level [] first rest

theorem fromFirstM_runs {pass : Item → List Item → Except CompileError (List Item)}
    (runs : ∀ current rest, Runs [] (current :: rest) (pass current rest)) (items : List Item) :
    Runs [] items (fromFirstM pass items) := by
  cases items with
  | nil => exact .pure [] []
  | cons first rest => exact runs first rest

theorem reduceAt_runs (levels : List (List BinaryOperator)) (items : List Item) :
    Runs [] items (.ok (reduceAt levels items)) := by
  induction levels with
  | nil => exact .pure [] items
  | cons level levels ih => exact .of_becomes ih (fromFirst_runs level _)

/-- The passes do nothing but rewrite. -/
theorem leftOf_runs (items : List Item) :
    Yields (leftOf items) (Becomes items) (Breaks items) := by
  have runs : Runs [] items (leftOf items) := by
    refine Runs.bind ?_ fun operands => ?_
    · rw [reduceOperands]
      refine (reduceAtoms_runs [] items).bind fun _ => ?_
      refine (fromFirstM_runs (reduceChains_runs []) _).bind fun _ => ?_
      exact (fromFirstM_runs (reduceSteps_runs []) _).bind (reduceUnary_runs [])
    · refine .of_becomes (reduceAt_runs BinaryOperator.levels.reverse operands) ?_
      exact .of_becomes (reduceTernaries_runs _ _) (fromFirst_runs _ _)
  simpa [Runs] using runs

end Parlance.Arithmetic
