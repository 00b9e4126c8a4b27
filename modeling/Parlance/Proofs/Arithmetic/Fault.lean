import Parlance.Proofs.Arithmetic.Alternation
import Parlance.Proofs.Arithmetic.Precedence
import Parlance.Proofs.Tree.RoundTrip

/-!
# Faults

Every error of compilation has its cause in one pair of brackets of the tree. Either there is a
literal in it that cannot be read, or rewriting leaves a list from which nothing can be made. What an
error says about a list that is left is found in the list: a node at its offset, if there is
anything in it at all.
-/

namespace Parlance.Arithmetic

/-- The node is a literal without a value. -/
def Unreadable (node : Node) : Prop :=
  node.IsTokenOf "number" ∧ readNumber? (textOf node) = none ∨
    node.IsTokenOf "string" ∧ readString? (textOf node) = none

/-- The brackets are compiled whenever they are reached. Those of a call without arguments are not. -/
def IsCompiled (node : Node) : Prop :=
  node.IsGroupOf "paren" ∨ node.IsGroupOf "index" ∨ node.IsGroupOf "call" ∧ node.children ≠ []

/-- What is wrong between the brackets, if nothing is wrong inside those that they hold. -/
inductive Blames (bracket : Node) : CompileError → Prop where
  | literal {node} (member : node ∈ bracket.children) (unreadable : Unreadable node) :
      Blames bracket (.invalidLiteral (textOf node) node.position)
  | empty (holdsNothing : bracket.children = []) : Blames bracket (.unreduced bracket.position 0)
  | leftOver {items node inside} (left : leftOf (itemsOf bracket.children) = .ok items)
      (among : Item.raw node inside ∈ items) (member : node ∈ bracket.children) :
      Blames bracket (.unreduced node.position items.length)
  | mark {items node inside} (left : leftOf (itemsOf bracket.children) = .ok items)
      (among : Item.raw node inside ∈ items) (member : node ∈ bracket.children)
      (marks : node.IsTernaryMark) : Blames bracket (.incompleteTernary node.position)

variable {nodes : List Node} {node tree bracket : Node} {items left window : List Item}
  {item made : Item} {fault : CompileError} {reduction : Reduction}

/-- Nothing remains of empty brackets, and a node of any others. -/
theorem Blames.of_unreduced {offset remaining : Nat}
    (blames : Blames bracket (.unreduced offset remaining)) :
    remaining = 0 ∧ bracket.children = [] ∧ bracket.position = offset ∨
      remaining ≠ 0 ∧ ∃ items node inside, leftOf (itemsOf bracket.children) = .ok items ∧
        items.length = remaining ∧ .raw node inside ∈ items ∧ node ∈ bracket.children ∧
        node.position = offset := by
  cases blames with
  | empty holdsNothing => exact .inl ⟨rfl, holdsNothing, rfl⟩
  | leftOver left among member =>
      exact .inr ⟨(List.length_pos_of_mem among).ne', _, _, _, left, rfl, among, member, rfl⟩

/-! ### Nodes in work lists -/

/-- The nodes in the list are among these, each with what it holds. -/
def StemsFrom (nodes : List Node) (items : List Item) : Prop :=
  ∀ node inside, .raw node inside ∈ items → node ∈ nodes ∧ inside = compileInside node

theorem stemsFrom_itemsOf (nodes : List Node) : StemsFrom nodes (itemsOf nodes) := by
  intro node inside member
  rw [itemsOf_eq_map, List.mem_map] at member
  obtain ⟨_, among, ⟨⟩⟩ := member
  exact ⟨among, rfl⟩

/-- Nothing that is built is a node. -/
theorem Reduction.Fits.not_raw (fits : reduction.Fits left window)
    (builds : reduction.build? window = some (.ok made)) (node : Node)
    (inside : Except CompileError Expr) : made ≠ .raw node inside := by
  rintro rfl
  have noNode {result : Except CompileError Expr} {change : Expr → Expr} :
      (result.map fun value => Item.expr (change value)) ≠ .ok (.raw node inside) := by
    cases result <;> simp [Except.map]
  cases fits with
  | symbol | member | branches | ternary => cases Option.some.inj builds
  | _ => exact noNode (Option.some.inj builds)

theorem Rewrites.stemsFrom {former latter : List Item} (rewrites : Rewrites former latter)
    (stems : StemsFrom nodes former) : StemsFrom nodes latter := by
  obtain ⟨reduction, left, window, right, made, rfl, rfl, fits, builds⟩ := rewrites.exists_fits
  intro node inside member
  rcases List.mem_append.1 member with before | behind
  · exact stems node inside (by simp [before])
  · rcases List.mem_cons.1 behind with rfl | behind
    · exact absurd rfl (fits.not_raw builds node inside)
    · exact stems node inside (by simp [behind])

theorem Becomes.stemsFrom {former latter : List Item} (becomes : Becomes former latter)
    (stems : StemsFrom nodes former) : StemsFrom nodes latter := by
  induction becomes with
  | refl => exact stems
  | tail _ rewrites ih => exact rewrites.stemsFrom ih

/-- Rewriting never empties a list. -/
theorem Becomes.eq_nil_iff {former latter : List Item} (becomes : Becomes former latter) :
    latter = [] ↔ former = [] := by
  induction becomes with
  | refl => exact Iff.rfl
  | tail _ rewrites ih =>
      obtain ⟨reduction, left, window, right, made, rfl, rfl, fits, _⟩ := rewrites.exists_fits
      rw [← ih]
      cases fits <;> simp

/-! ### Symbols of the language -/

/-- A token of a name has one of the fixed texts that the language gives to the name. -/
theorem mem_texts_of_makes {texts : List Text} (makes : grammar.Makes node) (isToken : node.isToken = true)
    (fixed : ∀ outline ∈ outlines, outline.name = node.name → outline.start = some texts)
    (some : [] ∉ texts) : textOf node ∈ texts := by
  cases makes with
  | @token term ahead marker position length leading member shape found =>
      have listed : outlineOf term ∈ outlines := by
        rw [← grammar_outlined.1]
        exact List.mem_map_of_mem member
      rw [Matcher.match?_of_texts? (fixed _ listed rfl) some] at found
      exact List.mem_of_find?_eq_some found
  | group => cases isToken

/-- A step behind an operand has a known symbol. -/
theorem exists_step (makes : grammar.Makes node) (named : node.IsTokenOf "postfix") :
    ∃ step, Step.ofSymbol? (String.ofList (textOf node)) = some step := by
  have listed : textOf node ∈ ["++".toList, "--".toList] := by
    refine mem_texts_of_makes makes named.1 ?_ (by decide)
    rw [named.2]
    decide
  have known : ∀ text ∈ ["++".toList, "--".toList],
      (Step.ofSymbol? (String.ofList text)).isSome = true := by
    decide
  exact Option.isSome_iff_exists.1 (known _ listed)

/-- An operator in front of an operand has a known symbol. -/
theorem exists_unaryOperator (makes : grammar.Makes node) (named : node.IsTokenOf "prefix") :
    ∃ operator, UnaryOperator.ofSymbol? (String.ofList (textOf node)) = some operator := by
  have listed : textOf node ∈ ["++", "--", "!", "~", "+", "-"].map String.toList := by
    refine mem_texts_of_makes makes named.1 ?_ (by decide)
    rw [named.2]
    decide
  have known : ∀ text ∈ ["++", "--", "!", "~", "+", "-"].map String.toList,
      (UnaryOperator.ofSymbol? (String.ofList text)).isSome = true := by
    decide
  exact Option.isSome_iff_exists.1 (known _ listed)

/-! ### What is left of a list -/

theorem leaves_ne_branches (closed : item.isQuestion = false) : item.leaves ≠ .branches := by
  cases item with
  | raw node inside =>
      rw [Item.leaves, if_neg (by simp [closed])]
      split <;> simp
  | _ => simp [Item.leaves]

theorem isBranches_of_admits {due : Due} (closed : due ≠ .branches)
    (admits : due.admits item = true) : item.isBranches = false := by
  cases item with
  | branches => cases due <;> simp_all [Due.admits]
  | _ => rfl

/-- Half a ternary does not come first among what is left of ternaries. -/
theorem isMark_of_find? {due : Due} (alternates : Alternates due items) (closed : due ≠ .branches)
    (found : items.find? (fun item => item.isQuestion || item.isColon || item.isBranches) =
      some item) : item.isQuestion = true ∨ item.isColon = true := by
  induction items generalizing due with
  | nil => cases found
  | cons first rest ih =>
      rw [List.find?_cons] at found
      split at found
      · rename_i marks
        cases found
        have whole := isBranches_of_admits closed alternates.1
        simpa [whole] using marks
      · rename_i plain
        simp only [Bool.or_eq_false_iff] at plain
        exact ih alternates.2 (leaves_ne_branches plain.1.1) found

/-- Where operands and operations alternate, no two expressions meet. -/
theorem exists_find?_of_alternates (alternates : Alternates .operand items) (nonempty : items ≠ [])
    (several : ∀ value, items ≠ [.expr value]) :
    ∃ item, items.find? (fun item => !item.isExpr) = some item := by
  rw [← Option.isSome_iff_exists, List.find?_isSome]
  match items with
  | [] => exact absurd rfl nonempty
  | .expr value :: [] => exact absurd rfl (several value)
  | .expr _ :: .expr _ :: _ => cases alternates.2.1
  | .expr _ :: .raw node inside :: _ => exact ⟨.raw node inside, by simp, rfl⟩
  | .expr _ :: .branches truthy falsy origin :: _ =>
      exact ⟨.branches truthy falsy origin, by simp, rfl⟩
  | .raw node inside :: _ => exact ⟨.raw node inside, by simp, rfl⟩
  | .branches truthy falsy origin :: _ => exact ⟨.branches truthy falsy origin, by simp, rfl⟩

/-- What an error says about a list that is left is found in the list. -/
theorem finish_eq_error {origin : Origin} (alternates : Alternates .operand items)
    (fails : finish items origin = .error fault) :
    items = [] ∧ fault = .unreduced origin.position 0 ∨
      ∃ node inside, .raw node inside ∈ items ∧ (fault = .unreduced node.position items.length ∨
        node.IsTernaryMark ∧ fault = .incompleteTernary node.position) := by
  unfold finish at fails
  split at fails
  · rename_i item found
    cases fails
    have member := List.mem_of_find?_eq_some found
    rcases isMark_of_find? alternates (by simp) found with opens | closes
    · obtain ⟨node, inside, rfl, writes⟩ := Item.isQuestion_iff.1 opens
      exact .inr ⟨node, inside, member, .inr ⟨.inl writes, rfl⟩⟩
    · obtain ⟨node, inside, rfl, writes⟩ := Item.isColon_iff.1 closes
      exact .inr ⟨node, inside, member, .inr ⟨.inr writes, rfl⟩⟩
  · rename_i noMark
    split at fails
    · cases fails
    · rename_i several
      cases fails
      by_cases nonempty : items = []
      · subst nonempty
        exact .inl ⟨rfl, rfl⟩
      · obtain ⟨item, found⟩ := exists_find?_of_alternates alternates nonempty fun value same =>
          several value same
        have member := List.mem_of_find?_eq_some found
        have noExpr := List.find?_some found
        have unmarked := List.find?_eq_none.1 noMark item member
        cases item with
        | expr value => cases noExpr
        | branches truthy falsy origin => exact absurd rfl unmarked
        | raw node inside => exact .inr ⟨node, inside, member, .inl (by rw [found]; rfl)⟩

/-! ### What is to blame -/

theorem literalOf_eq_error (named : node.IsTokenOf "number" ∨ node.IsTokenOf "string")
    (fails : literalOf node = .error fault) :
    Unreadable node ∧ fault = .invalidLiteral (textOf node) node.position := by
  rcases named with number | string
  · simp only [literalOf, number.2] at fails
    split at fails
    · cases fails
    · rename_i unread
      cases fails
      exact ⟨.inl ⟨number, unread⟩, rfl⟩
  · simp only [literalOf, string.2] at fails
    split at fails
    · cases fails
    · rename_i unread
      cases fails
      exact ⟨.inr ⟨string, unread⟩, rfl⟩

/-- If rewriting fails, there is an unreadable literal, or the fault is inside other brackets. -/
theorem Fails.blames (fails : Fails items fault) (stems : StemsFrom tree.children items)
    (makes : ∀ child ∈ tree.children, grammar.MakesAll child) :
    Blames tree fault ∨
      ∃ child ∈ tree.children, IsCompiled child ∧ compileInside child = .error fault := by
  obtain ⟨reduction, left, window, right, rfl, fits, builds⟩ := fails.exists_fits
  have among (node inside) (member : Item.raw node inside ∈ window) :
      node ∈ tree.children ∧ inside = compileInside node :=
    stems node inside (by simp [member])
  have makesNode (node inside) (member : Item.raw node inside ∈ window) : grammar.Makes node :=
    makes node (among node inside member).1 node .self
  cases fits with
  | @literal node inside named =>
      obtain ⟨unreadable, rfl⟩ :=
        literalOf_eq_error named (map_eq_error_iff.1 (Option.some.inj builds))
      exact .inl (.literal (among node inside (by simp)).1 unreadable)
  | symbol | member | branches | ternary => cases Option.some.inj builds
  | @group node inside named =>
      obtain ⟨member, rfl⟩ := among node inside (by simp)
      exact .inr ⟨node, member, .inl named, map_eq_error_iff.1 (Option.some.inj builds)⟩
  | @call callee node inside named =>
      obtain ⟨member, rfl⟩ := among node inside (by simp)
      have fails := map_eq_error_iff.1 (Option.some.inj builds)
      unfold callOf at fails
      split at fails
      · cases fails
      · rename_i holdsSome
        have compiled : IsCompiled node := .inr (.inr ⟨named, by simpa using holdsSome⟩)
        exact .inr ⟨node, member, compiled, map_eq_error_iff.1 fails⟩
  | @index object node inside named =>
      obtain ⟨member, rfl⟩ := among node inside (by simp)
      have fails := map_eq_error_iff.1 (Option.some.inj builds)
      exact .inr ⟨node, member, .inr (.inl named), map_eq_error_iff.1 fails⟩
  | @step operand node inside named =>
      obtain ⟨step, known⟩ := exists_step (makesNode node inside (by simp)) named
      have fails := map_eq_error_iff.1 (Option.some.inj builds)
      simp [stepOf, known] at fails
  | @unary node inside operand named =>
      obtain ⟨operator, known⟩ := exists_unaryOperator (makesNode node inside (by simp)) named
      have fails := map_eq_error_iff.1 (Option.some.inj builds)
      simp [unaryOf, known] at fails
  | binary _ writes =>
      have fails := map_eq_error_iff.1 (Option.some.inj builds)
      rw [applied_eq writes] at fails
      cases fails

/-- An error is the fault of some brackets of the tree that are compiled. -/
theorem exists_blames {tree : Node} (alternates : AlternatesInside tree)
    (makes : ∀ child ∈ tree.children, grammar.MakesAll child)
    (fails : compileInside tree = .error fault) :
    ∃ bracket, tree.Contains bracket ∧ (bracket = tree ∨ IsCompiled bracket) ∧
      compileInside bracket = .error fault ∧ Blames bracket fault := by
  have whole := fails
  rw [compileInside_eq, reduce_eq_leftOf] at fails
  have runs := leftOf_runs (itemsOf tree.children)
  have initial := stemsFrom_itemsOf tree.children
  cases left : leftOf (itemsOf tree.children) with
  | error other =>
      rw [left] at fails runs
      obtain rfl : fault = other := (Except.error.inj fails).symm
      obtain ⟨middle, becomes, breaks⟩ := runs
      rcases breaks.blames (becomes.stemsFrom initial) makes with blames | ⟨child, member, compiled, fails⟩
      · exact ⟨tree, .self, .inl rfl, whole, blames⟩
      · have smaller := Node.sizeOf_lt_of_mem_children member
        obtain ⟨bracket, contains, role, blamed⟩ := exists_blames
          (fun inner contains => alternates inner ((Node.Contains.child .self member).trans contains))
          (fun inner among => fun other contains => makes child member other
            ((Node.Contains.child .self among).trans contains)) fails
        refine ⟨bracket, (Node.Contains.child .self member).trans contains, .inr ?_, blamed⟩
        rcases role with rfl | role
        · exact compiled
        · exact role
  | ok items =>
      rw [left] at fails runs
      have becomes : Becomes (itemsOf tree.children) items := runs
      refine ⟨tree, .self, .inl rfl, whole, ?_⟩
      rcases finish_eq_error (becomes.alternates (alternates tree .self)) fails with
        ⟨rfl, rfl⟩ | ⟨node, inside, among, rfl | ⟨marks, rfl⟩⟩
      · refine .empty ?_
        simpa [itemsOf_eq_map] using becomes.eq_nil_iff.1 rfl
      · exact .leftOver left among (becomes.stemsFrom initial node inside among).1
      · exact .mark left among (becomes.stemsFrom initial node inside among).1 marks
termination_by sizeOf tree

/-! ### Sources -/

/-- The node stands in the source at its position. -/
def StandsIn (source : Text) (node : Node) : Prop :=
  ∃ earlier later, source = earlier ++ node.span ++ later ∧ node.position = earlier.byteLength

/-- The brackets are those of the whole source or some that are compiled with them, and what they
hold does not compile. -/
structure FailsWithin (source : Text) (bracket : Node) (fault : CompileError) : Prop where
  within : ∃ tree, grammar.parse .plain source = .ok tree ∧ tree.Contains bracket ∧
    (bracket = tree ∨ IsCompiled bracket)
  fails : compileInside bracket = .error fault

variable {source : Text}

theorem standsIn_of_contains (parsed : grammar.parse .plain source = .ok tree)
    (contains : tree.Contains node) : StandsIn source node := by
  obtain ⟨placed, whole⟩ := Grammar.parse_placed grammar_findsPrefixes parsed
  obtain ⟨earlier, later, source_eq, nodePlaced⟩ := contains.placed placed
  rw [List.nil_append, whole, Node.text_eq] at source_eq
  exact ⟨earlier ++ node.leading, later, by simp [source_eq], nodePlaced.position_eq⟩

theorem FailsWithin.standsIn {bracket : Node} (fails : FailsWithin source bracket fault)
    (contains : bracket.Contains node) : StandsIn source node := by
  obtain ⟨tree, parsed, within, _⟩ := fails.within
  exact standsIn_of_contains parsed (within.trans contains)

/-- Any error that is not one of parsing is the fault of some brackets. -/
theorem compile_eq_error (fails : compile source = .error fault) :
    (∃ error, fault = .parse error ∧ grammar.parse .plain source = .error error) ∨
      ∃ bracket, FailsWithin source bracket fault ∧ Blames bracket fault := by
  unfold compile at fails
  split at fails
  · rename_i tree parsed
    obtain ⟨bracket, contains, role, fails, blames⟩ :=
      exists_blames (alternatesInside_of_parse parsed) (Grammar.parse_makesAll parsed) fails
    exact .inr ⟨bracket, ⟨⟨tree, parsed, contains, role⟩, fails⟩, blames⟩
  · rename_i error parsed
    cases fails
    exact .inl ⟨error, rfl, parsed⟩

/-- Whatever a reduction accepts lies within the list and has the shape that it builds from, and no
pass does anything but reduce. So operators are always known, nothing remains only of brackets without
children, and any other error about what remains is at the start of a node that remains, which is a
question mark or a colon if a ternary is incomplete. -/
theorem compile_errors_honest :
    (∀ (reduction : Reduction) (items : List Item) (place : Nat),
      reduction.accepts items place = true → reduction.splice.last place < items.length ∧
        (reduction.taken items place).length = reduction.splice.size ∧
        ∃ outcome, reduction.build? (reduction.taken items place) = some outcome) ∧
    (∀ items origin, reduce items origin = (leftOf items >>= fun left => finish left origin) ∧
      Yields (leftOf items) (Becomes items) (Breaks items)) ∧
    (∀ source symbol offset, compile source ≠ .error (.unknownOperator symbol offset)) ∧
    (∀ source offset, compile source = .error (.unreduced offset 0) →
      ∃ tree bracket, grammar.parse .plain source = .ok tree ∧ tree.Contains bracket ∧
        (bracket = tree ∨ bracket.IsGroupOf "paren" ∨ bracket.IsGroupOf "index") ∧
        bracket.children = [] ∧ bracket.position = offset ∧ StandsIn source bracket) ∧
    (∀ source offset remaining, compile source = .error (.unreduced offset remaining) →
      remaining ≠ 0 → ∃ bracket items node inside,
        FailsWithin source bracket (.unreduced offset remaining) ∧
        leftOf (itemsOf bracket.children) = .ok items ∧ items.length = remaining ∧
        .raw node inside ∈ items ∧ node ∈ bracket.children ∧ node.position = offset ∧
        StandsIn source node) ∧
    ∀ source offset, compile source = .error (.incompleteTernary offset) →
      ∃ bracket items node inside, FailsWithin source bracket (.incompleteTernary offset) ∧
        leftOf (itemsOf bracket.children) = .ok items ∧ .raw node inside ∈ items ∧
        node ∈ bracket.children ∧ node.IsTernaryMark ∧ node.position = offset ∧
        StandsIn source node := by
  refine ⟨fun _ _ _ => Reduction.within_of_accepts,
    fun items origin => ⟨reduce_eq_leftOf items origin, leftOf_runs items⟩, ?_, ?_, ?_, ?_⟩
  · intro source symbol offset fails
    obtain ⟨_, ⟨⟩, _⟩ | ⟨bracket, _, ⟨⟩⟩ := compile_eq_error fails
  · intro source offset fails
    obtain ⟨_, ⟨⟩, _⟩ | ⟨bracket, failsWithin, blames⟩ := compile_eq_error fails
    obtain ⟨_, holdsNothing, position_eq⟩ | ⟨nonzero, _⟩ := blames.of_unreduced
    · have stands := failsWithin.standsIn .self
      obtain ⟨tree, parsed, contains, role⟩ := failsWithin.within
      refine ⟨tree, bracket, parsed, contains, ?_, holdsNothing, position_eq, stands⟩
      rcases role with isTree | paren | index | ⟨_, holdsSome⟩
      · exact .inl isTree
      · exact .inr (.inl paren)
      · exact .inr (.inr index)
      · exact absurd holdsNothing holdsSome
    · exact absurd rfl nonzero
  · intro source offset remaining fails nonzero
    obtain ⟨_, ⟨⟩, _⟩ | ⟨bracket, failsWithin, blames⟩ := compile_eq_error fails
    obtain ⟨zero, _⟩ | ⟨_, items, node, inside, left, length, among, member, position_eq⟩ :=
      blames.of_unreduced
    · exact absurd zero nonzero
    · exact ⟨bracket, items, node, inside, failsWithin, left, length, among, member, position_eq,
        failsWithin.standsIn (.child .self member)⟩
  · intro source offset fails
    obtain ⟨_, ⟨⟩, _⟩ | ⟨bracket, failsWithin, blames⟩ := compile_eq_error fails
    cases blames with
    | mark left among member marks =>
        exact ⟨bracket, _, _, _, failsWithin, left, among, member, marks, rfl,
          failsWithin.standsIn (.child .self member)⟩

theorem compile_errors_honest_leftOvers :
    (compile "f(())".toList = .error (.unreduced 2 0) ∧
      ∃ tree bracket, grammar.parse .plain "f(())".toList = .ok tree ∧ tree.Contains bracket ∧
        (bracket = tree ∨ bracket.IsGroupOf "paren" ∨ bracket.IsGroupOf "index") ∧
        bracket.children = [] ∧ bracket.position = 2 ∧ StandsIn "f(())".toList bracket) ∧
    (compile "'é'[1 +]".toList = .error (.unreduced 7 2) ∧
      ∃ bracket items node inside, FailsWithin "'é'[1 +]".toList bracket (.unreduced 7 2) ∧
        leftOf (itemsOf bracket.children) = .ok items ∧ items.length = 2 ∧
        .raw node inside ∈ items ∧ node ∈ bracket.children ∧ node.position = 7 ∧
        StandsIn "'é'[1 +]".toList node) ∧
    compile "a ? b : c : d".toList = .error (.incompleteTernary 10) ∧
      ∃ bracket items node inside,
        FailsWithin "a ? b : c : d".toList bracket (.incompleteTernary 10) ∧
        leftOf (itemsOf bracket.children) = .ok items ∧ .raw node inside ∈ items ∧
        node ∈ bracket.children ∧ node.IsTernaryMark ∧ node.position = 10 ∧
        StandsIn "a ? b : c : d".toList node := by
  have empty : compile "f(())".toList = .error (.unreduced 2 0) :=
    map_eq_error_iff.1 (show (compile _).map (fun _ => ()) = _ by decide +kernel)
  have cut : compile "'é'[1 +]".toList = .error (.unreduced 7 2) :=
    map_eq_error_iff.1 (show (compile _).map (fun _ => ()) = _ by decide +kernel)
  have twice : compile "a ? b : c : d".toList = .error (.incompleteTernary 10) :=
    map_eq_error_iff.1 (show (compile _).map (fun _ => ()) = _ by decide +kernel)
  obtain ⟨_, _, _, ofNothing, ofLeftOver, ofMark⟩ := compile_errors_honest
  exact ⟨⟨empty, ofNothing _ _ empty⟩, ⟨cut, ofLeftOver _ _ _ cut (by decide)⟩, twice,
    ofMark _ _ twice⟩
end Parlance.Arithmetic
