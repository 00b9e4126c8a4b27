import Parlance.Proofs.Arithmetic.Completeness
import Parlance.Proofs.Arithmetic.Quoted
import Parlance.Proofs.Arithmetic.Soundness

/-!
# Precedence

Compiling gives what the grammar of expressions derives. At every level of brackets without question
marks and colons, the passes make one expression exactly from the nodes that derive one, and it is
that one up to its origins.
-/

namespace Parlance

/-- The node writes one of the two symbols of ternaries. -/
def Node.IsTernaryMark (node : Node) : Prop :=
  node.WritesBetween "?" ∨ node.WritesBetween ":"

instance (node : Node) : Decidable node.IsTernaryMark :=
  inferInstanceAs (Decidable (_ ∨ _))

namespace Arithmetic

variable {node : Node} {nodes : List Node} {items : List Item} {expr : Expr}

/-! ### Lists without ternaries -/

theorem ternaryOf?_of_none {left : List Item} {previous current next : Item}
    (noQuestion : current.isQuestion = false) (noColon : current.isColon = false) :
    ternaryOf? left previous current next = none := by
  unfold ternaryOf?
  split <;> simp [noQuestion, noColon]

theorem passTernaries_of_none {left passed : List Item}
    (idle : ∀ item ∈ left, item.isQuestion = false ∧ item.isColon = false) :
    passTernaries left passed = left.reverse ++ passed := by
  fun_induction passTernaries left passed with
  | case1 => rfl
  | case2 => rfl
  | case3 current previous left ih =>
      rw [ih fun item member => idle item (List.mem_cons_of_mem _ member)]
      simp
  | case4 current previous left next rest made found ih =>
      obtain ⟨noQuestion, noColon⟩ := idle current (by simp)
      rw [ternaryOf?_of_none noQuestion noColon] at found
      cases found
  | case5 current previous left next rest noTernary ih =>
      rw [ih fun item member => idle item (List.mem_cons_of_mem _ member)]
      simp

/-- Without question marks and colons, passes for ternaries change nothing. -/
theorem reduceTernaries_of_none {fuel : Nat}
    (idle : ∀ item ∈ items, item.isQuestion = false ∧ item.isColon = false) :
    reduceTernaries fuel items = items := by
  cases fuel with
  | zero => rfl
  | succ fuel =>
      have same : passTernaries items.reverse [] = items := by
        rw [passTernaries_of_none fun item member => idle item (List.mem_reverse.1 member)]
        simp
      rw [reduceTernaries, same]
      simp

/-! ### One level of brackets -/

/-- Compiling gives an expression exactly if that is all that the passes leave. -/
theorem compileInside_eq_ok_iff {made : Expr} :
    compileInside node = .ok made ↔
      ∃ operands values, reduceOperands (itemsOf node.children) = .ok operands ∧
        reduceAt BinaryOperator.levels.reverse operands = values ∧
        fromFirst (reduceLevel [.comma]) (reduceTernaries values.length values) =
          [.expr made] := by
  rw [compileInside_eq, reduce_eq, bind_eq_ok_iff]
  constructor
  · rintro ⟨operands, done, finished⟩
    exact ⟨operands, _, done, rfl, eq_of_finish finished⟩
  · rintro ⟨operands, _, done, rfl, finished⟩
    refine ⟨operands, done, ?_⟩
    simp only [finished]
    rfl

/-- The values of a level without ternaries stay as they are up to the comma. -/
theorem reduceTernaries_of_ternaryFree {operands : List Item}
    (ternaryFree : ∀ node ∈ nodes, ¬node.IsTernaryMark)
    (done : reduceOperands (itemsOf nodes) = .ok operands) {values : List Item}
    (reduced : reduceAt BinaryOperator.levels.reverse operands = values) (fuel : Nat) :
    reduceTernaries fuel values = values := by
  subst reduced
  apply reduceTernaries_of_none
  intro item member
  have shows := reduceAt_shows BinaryOperator.levels.reverse (reduceOperands_shows done)
  rcases shows.item_cases member with ⟨node, among, rfl⟩ | ⟨made, rfl⟩
  · obtain ⟨noQuestion, noColon⟩ := not_or.1 (ternaryFree node among)
    rw [← Item.isQuestion_ofNode_iff, Bool.not_eq_true] at noQuestion
    rw [← Item.isColon_ofNode_iff, Bool.not_eq_true] at noColon
    exact ⟨noQuestion, noColon⟩
  · exact ⟨rfl, rfl⟩

/-- The levels of operators, the loosest first, share no operator. -/
theorem levels_apart : ([.comma] :: BinaryOperator.levels.reverse).Pairwise
    fun outer inner => ∀ operator ∈ outer, operator ∉ inner := by
  decide

/-- A level without ternaries gives exactly what its nodes derive. -/
theorem gives_iff_isSequence (ternaryFree : ∀ child ∈ node.children, ¬child.IsTernaryMark) :
    Gives node expr ↔ IsSequence Gives node.children expr := by
  constructor
  · rintro ⟨made, compiled, rfl⟩
    obtain ⟨operands, _, done, rfl, finished⟩ := compileInside_eq_ok_iff.1 compiled
    rw [reduceTernaries_of_ternaryFree ternaryFree done rfl] at finished
    have shows := reduceAt_shows ([.comma] :: BinaryOperator.levels.reverse)
      (reduceOperands_shows done)
    rw [reduceAt, List.foldr_cons, ← reduceAt, finished] at shows
    exact shows.derived
  · intro derived
    obtain ⟨operands, made, done, reduced, rfl⟩ := derived.reduces levels_apart
    rw [reduceAt, List.foldr_cons, ← reduceAt] at reduced
    refine ⟨made, compileInside_eq_ok_iff.2 ⟨operands, _, done, rfl, ?_⟩, rfl⟩
    rw [reduceTernaries_of_ternaryFree ternaryFree done rfl]
    exact reduced

/-- In a tree without ternaries, compiling the inside of any node gives exactly what the node
means. -/
theorem gives_iff_means {node : Node} {expr : Expr}
    (ternaryFree : ∀ inner, node.Contains inner → ¬inner.IsTernaryMark) :
    Gives node expr ↔ Means node expr := by
  have children : ∀ child ∈ node.children, ∀ expr, Gives child expr ↔ Means child expr := by
    intro child member expr
    have smaller := Node.sizeOf_lt_of_mem_children member
    exact gives_iff_means fun inner contains =>
      ternaryFree inner ((Node.Contains.child .self member).trans contains)
  rw [means_iff, gives_iff_isSequence fun child member =>
    ternaryFree child (.child .self member)]
  constructor
  · exact IsBinary.transport fun child member expr => (children child member expr).1
  · exact IsBinary.transport fun child member expr => (children child member expr).2
termination_by sizeOf node

/-- A source without ternaries compiles exactly if its tree means something, and then to that up to
origins; a tree means at most one expression. String tokens can always be read, so only a number
that is no literal can be at fault in an atom. -/
theorem compile_iff_means {source : Text} {tree : Node}
    (parsed : grammar.parse .plain source = .ok tree)
    (ternaryFree : ∀ node, tree.Contains node → ¬node.IsTernaryMark) :
    (∀ expr, (∃ made, compile source = .ok made ∧ made.bare = expr) ↔ Means tree expr) ∧
    (∀ expr other, Means tree expr → Means tree other → expr = other) ∧
    ∀ node, tree.Contains node → node.IsTokenOf "string" →
      ∃ text, readString? (textOf node) = some text := by
  have compiles : compile source = compileInside tree := by
    rw [compile, parsed]
    rfl
  have agrees : ∀ expr,
      (∃ made, compile source = .ok made ∧ made.bare = expr) ↔ Means tree expr := by
    intro expr
    rw [compiles]
    exact gives_iff_means ternaryFree
  refine ⟨agrees, ?_, fun node => readString?_of_parse parsed⟩
  intro expr other means meansOther
  obtain ⟨made, done, rfl⟩ := (agrees expr).2 means
  obtain ⟨again, doneAgain, rfl⟩ := (agrees other).2 meansOther
  rw [done] at doneAgain
  rw [Except.ok.inj doneAgain]

theorem compile_means_chain : ∃ tree made,
    grammar.parse .plain "-a.b['y'](c, (d))++ * 3 + f()".toList = .ok tree ∧
    (∀ node, tree.Contains node → ¬node.IsTernaryMark) ∧
    compile "-a.b['y'](c, (d))++ * 3 + f()".toList = .ok made ∧ Means tree made.bare ∧
    (∀ other, Means tree other → made.bare = other) ∧
    ∀ node, tree.Contains node → node.IsTokenOf "string" →
      ∃ text, readString? (textOf node) = some text := by
  have checked : ((grammar.parse .plain "-a.b['y'](c, (d))++ * 3 + f()".toList).toOption.any
      fun tree => tree.nodes.all (!decide ·.IsTernaryMark)) = true := by
    decide +kernel
  have succeeds : (compile "-a.b['y'](c, (d))++ * 3 + f()".toList).isOk = true := by
    decide +kernel
  cases parsed : grammar.parse .plain "-a.b['y'](c, (d))++ * 3 + f()".toList with
  | error error =>
      rw [parsed] at checked
      cases checked
  | ok tree =>
      rw [parsed] at checked
      have ternaryFree : ∀ node, tree.Contains node → ¬node.IsTernaryMark := by
        intro node contains
        simpa using List.all_eq_true.1 checked node contains.mem_nodes
      obtain ⟨agrees, unique, readable⟩ := compile_iff_means parsed ternaryFree
      cases compiled : compile "-a.b['y'](c, (d))++ * 3 + f()".toList with
      | error error =>
          rw [compiled] at succeeds
          cases succeeds
      | ok made =>
          have means := (agrees made.bare).1 ⟨made, compiled, rfl⟩
          exact ⟨tree, made, rfl, ternaryFree, rfl, means, fun other => unique _ other means,
            readable⟩

end Arithmetic

end Parlance
