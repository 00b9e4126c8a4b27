import Parlance.Proofs.Arithmetic.Precedence
import Parlance.Proofs.Arithmetic.Printable

/-!
# Compiled expressions are printable

Names and numbers of a compiled expression come from tokens, and the passes join no comma list with
anything but a comma. So every expression that compiles from a source is printable.
-/

namespace Parlance.Arithmetic

variable {inside : Node → Expr → Prop} {node : Node} {nodes : List Node} {expr : Expr} {id : TermId}
  {text : Text}

/-! ### Tokens -/

/-- A token of the term that alone has this name is matched by the pattern of the term. -/
theorem exists_spells {test : Pattern → Bool} (matched : grammar.Matched node)
    (shaped : shapeAt id test = true)
    (only : ∀ other < 12, outlines[other]?.map Outline.name = some node.name → other = id) :
    ∃ pattern, test pattern = true ∧ pattern.Spells (textOf node) := by
  obtain ⟨term, member, _, name_eq, ahead, marker, found, content⟩ := matched
  obtain ⟨other, named⟩ := List.mem_iff_getElem?.1 member
  have listed : outlines[other]? = some (outlineOf term) := by
    rw [← grammar_outlined.1, List.getElem?_map, named]
    rfl
  obtain ⟨bound, _⟩ := List.getElem?_eq_some_iff.1 listed
  obtain rfl := only other bound (by rw [listed, name_eq]; rfl)
  obtain ⟨same, pattern, namedToo, shape, passes⟩ := exists_shape shaped
  obtain rfl := Option.some.inj (namedToo.symm.trans named)
  rw [textOf, content]
  exact ⟨pattern, passes, Matcher.spells_of_match? shape found⟩

theorem isName_of_identifier (matched : grammar.Matched node) (named : node.name = "identifier") :
    IsName (textOf node) := by
  obtain ⟨_, _, _, shaped, _⟩ := patterns_shaped
  obtain ⟨pattern, shape, spells⟩ := exists_spells matched shaped (by rw [named]; decide)
  exact isName_of_spells shape spells

theorem isName_of_property (matched : grammar.Matched node) (named : node.name = "property") :
    IsName (textOf node) := by
  obtain ⟨shaped, _⟩ := patterns_shaped
  obtain ⟨pattern, shape, spells⟩ := exists_spells matched shaped (by rw [named]; decide)
  exact isName_of_spells shape spells

theorem isUnsigned_of_number {value : Float} (matched : grammar.Matched node)
    (named : node.name = "number") (reads : readNumber? (textOf node) = some value) :
    Binary.IsUnsigned value := by
  obtain ⟨_, _, _, _, _, shaped⟩ := patterns_shaped
  obtain ⟨pattern, unsigned, spells⟩ := exists_spells matched shaped (by rw [named]; decide)
  refine Numeral.isUnsigned_of_readNumber? reads ?_
  intro char head member
  obtain ⟨rest, text⟩ := List.head?_eq_some_iff.1 head
  rw [text] at spells
  have never := List.all_eq_true.1 unsigned char member
  rw [Pattern.canStart_of_spells spells] at never
  cases never

/-! ### Derivations -/

/-- What is derived from tokens, with printable expressions between brackets, is printable. -/
def Derives (inside : Node → Expr → Prop) (nodes : List Node) : Prop :=
  ∀ node ∈ nodes, (node.isToken = true → grammar.Matched node) ∧
    ∀ expr, inside node expr → expr.Printable

theorem IsAtom.printable (sound : Derives inside nodes) (atom : IsAtom inside nodes expr) :
    expr.Printable ∧ expr.isSequence = false := by
  cases atom with
  | @number node value named reads =>
      obtain ⟨matched, _⟩ := sound node (by simp)
      exact ⟨isUnsigned_of_number (matched named.1) named.2 reads, rfl⟩
  | string named reads => exact ⟨trivial, rfl⟩
  | @identifier node named =>
      obtain ⟨matched, _⟩ := sound node (by simp)
      refine ⟨?_, rfl⟩
      rw [Expr.Printable, String.toList_ofList]
      exact isName_of_identifier (matched named.1) named.2
  | @paren node inner named bracketed =>
      have printable := (sound node (by simp)).2 inner bracketed
      cases inner <;> exact ⟨printable, rfl⟩

theorem Derives.left {others : List Node} (sound : Derives inside (nodes ++ others)) :
    Derives inside nodes :=
  fun node member => sound node (List.mem_append_left _ member)

theorem Derives.right {others : List Node} (sound : Derives inside (nodes ++ others)) :
    Derives inside others :=
  fun node member => sound node (List.mem_append_right _ member)

theorem IsChain.printable (sound : Derives inside nodes) (chain : IsChain inside nodes expr) :
    expr.Printable ∧ expr.isSequence = false := by
  induction chain with
  | atom atom => exact atom.printable sound
  | @member nodes object dot property chain dotted named ih =>
      obtain ⟨printable, single⟩ := ih sound.left
      obtain ⟨matched, _⟩ := sound property (by simp)
      refine ⟨⟨single, printable, ?_⟩, rfl⟩
      rw [String.toList_ofList]
      exact isName_of_property (matched named.1) named.2
  | callEmpty chain named holdsNothing ih =>
      obtain ⟨printable, single⟩ := ih sound.left
      exact ⟨⟨single, printable⟩, rfl⟩
  | @call nodes callee node arguments chain named holdsSome bracketed ih =>
      obtain ⟨printable, single⟩ := ih sound.left
      exact ⟨⟨single, printable, (sound node (by simp)).2 arguments bracketed⟩, rfl⟩
  | @index nodes object node key chain named bracketed ih =>
      obtain ⟨printable, single⟩ := ih sound.left
      exact ⟨⟨single, printable, (sound node (by simp)).2 key bracketed⟩, rfl⟩

theorem IsOperand.printable (sound : Derives inside nodes) (operand : IsOperand inside nodes expr) :
    expr.Printable ∧ expr.isSequence = false := by
  induction operand with
  | post post =>
      induction post with
      | chain chain => exact chain.printable sound
      | step post named writes ih =>
          obtain ⟨printable, single⟩ := ih sound.left
          exact ⟨⟨single, printable⟩, rfl⟩
  | unary named writes behind ih =>
      obtain ⟨printable, single⟩ := ih fun node member => sound node (List.mem_cons_of_mem _ member)
      exact ⟨⟨single, printable⟩, rfl⟩

/-- Without the comma among the levels, no comma list is derived. -/
theorem IsBinary.printable {levels : List (List BinaryOperator)}
    (noComma : ∀ level ∈ levels, .comma ∉ level) (sound : Derives inside nodes)
    (binary : IsBinary inside levels nodes expr) : expr.Printable ∧ expr.isSequence = false := by
  induction binary with
  | operand operand => exact operand.printable sound
  | tighter _ ih => exact ih (fun level member => noComma level (by simp [member])) sound
  | @applied level levels _ _ _ operator _ _ former among writes latter ihFormer ihLatter =>
      obtain ⟨printable, single⟩ := ihFormer noComma sound.left
      obtain ⟨printableBehind, singleBehind⟩ :=
        ihLatter (fun level member => noComma level (by simp [member]))
          fun node member => sound.right node (List.mem_cons_of_mem _ member)
      have other : operator ≠ .comma := by
        rintro rfl
        exact noComma level (by simp) among
      refine ⟨⟨fun _ => single, singleBehind, printable, printableBehind⟩, ?_⟩
      cases operator <;> first | exact absurd rfl other | rfl

/-! ### Passes -/

/-- The expressions in the item are printable and no comma lists. -/
def Item.HoldsValues : Item → Prop
  | .raw _ _ => True
  | .expr made => made.Printable ∧ made.isSequence = false
  | .branches truthy falsy _ =>
      (truthy.Printable ∧ truthy.isSequence = false) ∧ falsy.Printable ∧ falsy.isSequence = false

theorem ternaryOf?_holdsValues {left : List Item} {previous current next made : Item}
    (values : previous.HoldsValues) (valuesBehind : next.HoldsValues)
    (makes : ternaryOf? left previous current next = some made) : made.HoldsValues := by
  unfold ternaryOf? at makes
  split at makes
  · rename_i truthy falsy
    rw [Option.ite_none_right_eq_some] at makes
    cases makes.2
    exact ⟨values, valuesBehind⟩
  · rename_i condition truthy falsy origin
    rw [Option.ite_none_right_eq_some] at makes
    cases makes.2
    obtain ⟨⟨printableTruthy, singleTruthy⟩, printableFalsy, singleFalsy⟩ := valuesBehind
    exact ⟨⟨⟨values.2, singleTruthy, singleFalsy⟩, values.1, printableTruthy, printableFalsy⟩, rfl⟩
  · cases makes

theorem passTernaries_holdsValues {left passed : List Item}
    (values : ∀ item ∈ left, item.HoldsValues) (valuesPassed : ∀ item ∈ passed, item.HoldsValues) :
    ∀ item ∈ passTernaries left passed, item.HoldsValues := by
  fun_induction passTernaries left passed with
  | case1 passed => exact valuesPassed
  | case2 current passed => simp_all
  | case3 current previous left ih => simp_all
  | case4 current previous left next rest made makes ih =>
      have holds := ternaryOf?_holdsValues (values previous (by simp)) (valuesPassed next (by simp))
        makes
      apply ih
      · intro item member
        exact values item (by simp [member])
      · intro item member
        rcases List.mem_cons.1 member with rfl | member
        · exact holds
        · exact valuesPassed item (by simp [member])
  | case5 current previous left next rest makes ih => simp_all

theorem reduceTernaries_holdsValues {items : List Item} (fuel : Nat)
    (values : ∀ item ∈ items, item.HoldsValues) :
    ∀ item ∈ reduceTernaries fuel items, item.HoldsValues := by
  induction fuel generalizing items with
  | zero => exact values
  | succ fuel ih =>
      have reversed : ∀ item ∈ items.reverse, item.HoldsValues := by simpa using values
      have none : ∀ item ∈ ([] : List Item), item.HoldsValues := by simp
      have passed := passTernaries_holdsValues reversed none
      rw [reduceTernaries]
      split
      · exact values
      · exact ih passed

/-- The pass for commas puts only values on the right of a comma. -/
theorem reduceLevel_printable {current : Item} {items : List Item}
    (printable : ∀ made, current = .expr made → made.Printable)
    (values : ∀ item ∈ items, item.HoldsValues) :
    ∀ made, .expr made ∈ reduceLevel [.comma] current items → made.Printable := by
  fun_induction reduceLevel [.comma] current items with
  | case1 current =>
      intro made member
      exact printable made (List.mem_singleton.1 member).symm
  | case2 current item =>
      intro made member
      simp only [List.mem_cons, List.not_mem_nil, or_false] at member
      rcases member with same | rfl
      · exact printable made same.symm
      · exact (values (.expr made) (by simp)).1
  | case3 item rest left operator right found ih =>
      have right := values (.expr right) (by simp)
      refine ih ?_ fun item member => values item (by simp [member])
      rintro _ ⟨⟩
      refine ⟨fun noComma => ?_, right.2, printable left rfl, right.1⟩
      obtain ⟨among, _⟩ := Item.operator?_eq_some_iff.1 found
      exact absurd (List.mem_singleton.1 among) noComma
  | case4 current item after rest _ ih =>
      intro made member
      rcases List.mem_cons.1 member with same | member
      · exact printable made same.symm
      · refine ih ?_ (fun item among => values item (by simp [among])) made member
        rintro made rfl
        exact (values (.expr made) (by simp)).1

/-- Every item of a list that shows derivations of values holds values. -/
theorem Shows.holdsValues {derives : List Node → Expr → Prop} {items : List Item}
    (shows : Shows derives nodes items)
    (values : ∀ former, (∀ node ∈ former, node ∈ nodes) → ∀ expr, derives former expr →
      expr.Printable ∧ expr.isSequence = false) :
    ∀ item ∈ items, item.HoldsValues := by
  induction shows with
  | nil => simp
  | @cons nodes item others items shown _ ih =>
      intro other member
      rcases List.mem_cons.1 member with rfl | member
      · cases shown with
        | node node => trivial
        | made derived =>
            have value := values nodes (fun node among => List.mem_append_left _ among) _ derived
            rw [Expr.printable_bare, Expr.isSequence_bare] at value
            exact value
      · exact ih (fun former among => values former fun node inFormer =>
          List.mem_append_right _ (among node inFormer)) other member

/-- Whatever compiles from the inside of a node is printable, if the tokens in it are matches. -/
theorem compileInside_printable {node : Node} {made : Expr} (matched : grammar.MatchesTokens node)
    (compiled : compileInside node = .ok made) : made.Printable := by
  have sound : Derives Gives node.children := by
    intro child member
    have contains : node.Contains child := .child .self member
    refine ⟨matched child contains, ?_⟩
    rintro _ ⟨inner, compiled, rfl⟩
    have matchedInside : grammar.MatchesTokens child := fun inner innermost =>
      matched inner (contains.trans innermost)
    have smaller := Node.sizeOf_lt_of_mem_children member
    rw [Expr.printable_bare]
    exact compileInside_printable matchedInside compiled
  obtain ⟨operands, _, done, rfl, finished⟩ := compileInside_eq_ok_iff.1 compiled
  have shows := reduceAt_shows BinaryOperator.levels.reverse (reduceOperands_shows done)
  have values := shows.holdsValues fun former within expr derived =>
    derived.printable (by decide) fun child member => sound child (within child member)
  have joined := reduceTernaries_holdsValues
    (reduceAt BinaryOperator.levels.reverse operands).length values
  generalize reduceTernaries _ _ = items at joined finished
  cases items with
  | nil => cases finished
  | cons first rest =>
      have behind : ∀ item ∈ rest, item.HoldsValues := fun item member =>
        joined item (List.mem_cons_of_mem _ member)
      have printable : ∀ made, first = .expr made → made.Printable := by
        rintro made rfl
        exact (joined (.expr made) (by simp)).1
      have left : .expr made ∈ reduceLevel [.comma] first rest := by
        rw [fromFirst] at finished
        simp [finished]
      exact reduceLevel_printable printable behind made left
termination_by sizeOf node

/-- What compiles from a source is printable. -/
theorem printable_of_compile {source : Text} {made : Expr} (compiled : compile source = .ok made) :
    made.Printable := by
  unfold compile at compiled
  split at compiled
  · rename_i tree parsed
    exact compileInside_printable (grammar.parse_matchesTokens parsed) compiled
  · cases compiled

end Parlance.Arithmetic
