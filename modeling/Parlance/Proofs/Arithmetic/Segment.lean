import Mathlib.Data.List.Forall2
import Parlance.Proofs.Arithmetic.Building
import Parlance.Proofs.Arithmetic.Pairing

/-!
# Segments

Commas cut the nodes between brackets into segments. No pass before the last one looks across a
comma, so what the brackets hold is made of what the segments compile to by themselves, joined from
the left by the pass for commas.
-/

namespace Parlance

namespace Arithmetic

variable {node : Node} {nodes others : List Node} {left right items : List Item}

/-! ### Ternaries -/

/-- A pass behind a node goes on in front of it as it would by itself. -/
theorem passTernaries_before (node : Node) (left passed behind : List Item) :
    passTernaries left (passed ++ .ofNode node :: behind) =
      passTernaries left passed ++ .ofNode node :: behind := by
  fun_induction passTernaries left passed with
  | case1 => rfl
  | case2 => rfl
  | case3 current previous left ih =>
      have idle : ternaryOf? left previous current (.ofNode node) = none := by
        cases previous <;> rfl
      rw [List.nil_append, passTernaries, idle]
      exact ih
  | case4 current previous left next rest made makes ih =>
      rw [List.cons_append, passTernaries, makes]
      exact ih
  | case5 current previous left next rest idle ih =>
      rw [List.cons_append, passTernaries, idle]
      exact ih

section

variable (unmarked : ¬node.IsTernaryMark)

include unmarked

theorem isQuestion_of_unmarked : (Item.ofNode node).isQuestion = false := by
  rw [← Bool.not_eq_true, Item.isQuestion_ofNode_iff]
  exact fun question => unmarked (.inl question)

theorem isColon_of_unmarked : (Item.ofNode node).isColon = false := by
  rw [← Bool.not_eq_true, Item.isColon_ofNode_iff]
  exact fun colon => unmarked (.inr colon)

/-- What a ternary is made of does not lie across a node that is no mark. -/
theorem ternaryOf?_append (previous current next : Item) :
    ternaryOf? (left ++ .ofNode node :: right) previous current next =
      ternaryOf? left previous current next := by
  cases left with
  | nil =>
      have nearest (value : Expr) :
          closesNearest (.expr value :: .ofNode node :: right) = closesNearest [.expr value] := by
        rw [Bool.eq_iff_iff, closesNearest_iff, closesNearest_iff]
        simp [isQuestion_of_unmarked unmarked]
      cases previous <;> cases next <;> simp [ternaryOf?, nearest]
  | cons first left => rfl

theorem passTernaries_at (left passed : List Item) :
    passTernaries (.ofNode node :: left) passed =
      passTernaries left [] ++ .ofNode node :: passed := by
  rw [← passTernaries_before, List.nil_append]
  cases left with
  | nil => rfl
  | cons previous left =>
      cases passed with
      | nil => rfl
      | cons next rest =>
          rw [passTernaries, ternaryOf?_of_none (isQuestion_of_unmarked unmarked)
            (isColon_of_unmarked unmarked)]

theorem passTernaries_behind (left right passed : List Item) :
    passTernaries (left ++ .ofNode node :: right) passed =
      passTernaries right [] ++ .ofNode node :: passTernaries left passed := by
  fun_induction passTernaries left passed with
  | case1 passed => exact passTernaries_at unmarked right passed
  | case2 current passed =>
      rw [← passTernaries_at unmarked]
      cases passed with
      | nil => rfl
      | cons next rest =>
          have idle : ternaryOf? right (.ofNode node) current next = none := by
            cases next <;> rfl
          rw [List.singleton_append, passTernaries, idle]
  | case3 current previous left ih => exact ih
  | case4 current previous left next rest made makes ih =>
      rw [List.cons_append, List.cons_append, passTernaries, ternaryOf?_append unmarked, makes]
      exact ih
  | case5 current previous left next rest idle ih =>
      rw [List.cons_append, List.cons_append, passTernaries, ternaryOf?_append unmarked, idle]
      exact ih

end

/-- A pass that makes nothing leaves the list as it is. Any other shortens it. -/
theorem passTernaries_cases (left passed : List Item) :
    passTernaries left passed = left.reverse ++ passed ∨
      (passTernaries left passed).length < left.length + passed.length := by
  fun_induction passTernaries left passed with
  | case1 => exact .inl rfl
  | case2 => exact .inl rfl
  | case3 current previous left ih => simpa [Nat.add_assoc] using ih
  | case4 current previous left next rest made makes ih =>
      refine .inr ?_
      rcases ih with same | shorter
      · rw [same, List.length_append, List.length_reverse]
        simp only [List.length_cons]
        omega
      · simp only [List.length_cons] at shorter ⊢
        omega
  | case5 current previous left next rest idle ih =>
      rcases ih with same | shorter
      · exact .inl (by simp [same])
      · refine .inr ?_
        simp only [List.length_cons] at shorter ⊢
        omega

/-- A list that a pass leaves as it is stays as it is. -/
theorem reduceTernaries_of_settled (settled : passTernaries items.reverse [] = items) (fuel : Nat) :
    reduceTernaries fuel items = items := by
  cases fuel with
  | zero => rfl
  | succ fuel => simp [reduceTernaries, settled]

theorem reduceTernaries_succ (fuel : Nat) (items : List Item) :
    reduceTernaries (fuel + 1) items = reduceTernaries fuel (passTernaries items.reverse []) := by
  rw [reduceTernaries]
  rcases passTernaries_cases items.reverse [] with same | shorter
  · rw [List.reverse_reverse, List.append_nil] at same
    simp [same, reduceTernaries_of_settled same]
  · rw [List.length_reverse, List.length_nil] at shorter
    rw [if_neg (by omega)]

/-- There are no more passes than items. -/
theorem reduceTernaries_of_le {fuel : Nat} (enough : items.length ≤ fuel) :
    reduceTernaries fuel items = reduceTernaries items.length items := by
  -- Each pass but the last one shortens the list, so one more pass than items changes nothing.
  have once : ∀ fuel (items : List Item), items.length ≤ fuel →
      reduceTernaries (fuel + 1) items = reduceTernaries fuel items := by
    intro fuel
    induction fuel with
    | zero =>
        intro items none
        rw [List.length_eq_zero_iff.1 (Nat.le_zero.1 none)]
        rfl
    | succ fuel ih =>
        intro items enough
        rcases passTernaries_cases items.reverse [] with same | shorter
        · rw [List.reverse_reverse, List.append_nil] at same
          rw [reduceTernaries_of_settled same, reduceTernaries_of_settled same]
        · rw [List.length_reverse, List.length_nil] at shorter
          rw [reduceTernaries_succ, reduceTernaries_succ fuel items, ih _ (by omega)]
  induction enough with
  | refl => rfl
  | step enough ih => rw [once _ _ enough, ih]

/-- Ternaries on both sides of a node that is no mark are reduced by themselves. -/
theorem reduceTernaries_append (unmarked : ¬node.IsTernaryMark) (fuel : Nat)
    (left right : List Item) :
    reduceTernaries fuel (left ++ .ofNode node :: right) =
      reduceTernaries fuel left ++ .ofNode node :: reduceTernaries fuel right := by
  induction fuel generalizing left right with
  | zero => rfl
  | succ fuel ih =>
      have passed := passTernaries_behind unmarked right.reverse left.reverse []
      rw [reduceTernaries_succ, reduceTernaries_succ, reduceTernaries_succ, ← ih, ← passed]
      simp

/-! ### Values between commas -/

/-- The passes before the one for commas. -/
def reduceValues (items : List Item) : Except CompileError (List Item) := do
  let operands ← reduceOperands items
  let values := reduceAt BinaryOperator.levels.reverse operands
  return reduceTernaries values.length values

theorem reduceValues_eq_ok_iff {values : List Item} :
    reduceValues items = .ok values ↔ ∃ operands, reduceOperands items = .ok operands ∧
      reduceTernaries (reduceAt BinaryOperator.levels.reverse operands).length
        (reduceAt BinaryOperator.levels.reverse operands) = values := by
  rw [reduceValues, bind_eq_ok_iff]
  simp [pure, Except.pure]

theorem reduceValues_built {values : List Item} (done : reduceValues (itemsOf nodes) = .ok values) :
    StandFor Built nodes values := by
  obtain ⟨operands, doneOperands, rfl⟩ := reduceValues_eq_ok_iff.1 done
  exact reduceTernaries_built _ (reduceAt_built _ (reduceOperands_built doneOperands))

/-- The passes before the one for commas do not look across a comma. -/
theorem reduceValues_split (comma : node.WritesBetween ",") {values : List Item}
    (done : reduceValues (itemsOf (nodes ++ node :: others)) = .ok values) :
    ∃ former latter, values = former ++ .ofNode node :: latter ∧
      reduceValues (itemsOf nodes) = .ok former ∧ reduceValues (itemsOf others) = .ok latter := by
  obtain ⟨operands, doneOperands, rfl⟩ := reduceValues_eq_ok_iff.1 done
  obtain ⟨former, latter, rfl, doneFormer, doneLatter⟩ :=
    reduceOperands_split comma.1 doneOperands
  have foreign : ∀ level ∈ BinaryOperator.levels.reverse,
      (Item.ofNode node).operator? level = none := by
    intro level member
    refine Item.operator?_ofNode_eq_none comma ?_
    revert level
    decide
  have unmarked : ¬node.IsTernaryMark := by
    rintro (question | colon)
    · exact absurd (Option.some.inj (comma.2.symm.trans question.2)) (by decide)
    · exact absurd (Option.some.inj (comma.2.symm.trans colon.2)) (by decide)
  rw [reduceAt_append foreign, reduceTernaries_append unmarked]
  -- The passes were as many as for the whole list, which is enough for each side.
  refine ⟨_, _, rfl, reduceValues_eq_ok_iff.2 ⟨former, doneFormer, ?_⟩,
    reduceValues_eq_ok_iff.2 ⟨latter, doneLatter, ?_⟩⟩
  · exact (reduceTernaries_of_le (by simp)).symm
  · refine (reduceTernaries_of_le ?_).symm
    simp only [List.length_append, List.length_cons]
    omega

end Arithmetic

/-! ### Segments -/

namespace Node

/-- Whether the node is a comma. -/
def isComma (node : Node) : Bool := decide (node.WritesBetween ",")

/-- The nodes between the commas among the nodes; no nodes make no segments. -/
def segments (nodes : List Node) : List (List Node) :=
  if nodes.isEmpty then [] else nodes.splitOnP isComma

theorem isComma_iff {node : Node} : node.isComma = true ↔ node.WritesBetween "," := by
  simp [isComma]

theorem length_splitOnP (nodes : List Node) :
    (nodes.splitOnP isComma).length = nodes.countP isComma + 1 := by
  induction nodes with
  | nil => rfl
  | cons node rest ih =>
      rw [List.splitOnP_cons_eq_if_modifyHead, List.countP_cons]
      split
      · simp [ih]
      · simp [ih]

/-- There is one segment more than there are commas, unless there are no nodes. -/
theorem length_segments {nodes : List Node} (some : nodes ≠ []) :
    (segments nodes).length = nodes.countP isComma + 1 := by
  rw [segments, if_neg (by simpa using some), length_splitOnP]

/-- What holds of nodes without commas and is kept when a comma joins two lists holds of all
lists. -/
theorem comma_induction {holds : List Node → Prop}
    (single : ∀ nodes, (∀ node ∈ nodes, node.isComma = false) → holds nodes)
    (join : ∀ nodes comma others, comma.isComma = true → holds nodes → holds others →
      holds (nodes ++ comma :: others)) (nodes : List Node) : holds nodes := by
  by_cases plain : ∀ node ∈ nodes, node.isComma = false
  · exact single nodes plain
  · simp only [not_forall, Bool.not_eq_false] at plain
    obtain ⟨comma, member, isComma⟩ := plain
    obtain ⟨former, latter, rfl⟩ := List.append_of_mem member
    exact join former comma latter isComma (comma_induction single join former)
      (comma_induction single join latter)
termination_by nodes.length

end Node

/-- The parts of a comma list, or the expression alone. -/
def Expr.parts : Expr → List Expr
  | binary _ .comma left right => left.parts ++ [right]
  | other => [other]

theorem Expr.parts_of_single {expr : Expr} (single : expr.isSequence = false) :
    expr.parts = [expr] := by
  unfold parts
  split
  · cases single
  · rfl

namespace Arithmetic

/-- Whether the item is a comma. -/
def Item.isComma (item : Item) : Bool := item.symbol? == some ","

theorem Item.isComma_iff {item : Item} : item.isComma = true ↔
    ∃ node inside, item = .raw node inside ∧ node.WritesBetween "," := by
  rw [isComma, beq_iff_eq, symbol?_eq_some_iff]

theorem isComma_of_operator? {item : Item} {operator : BinaryOperator}
    (found : item.operator? [.comma] = some operator) :
    operator = .comma ∧ item.isComma = true := by
  obtain ⟨among, written⟩ := Item.operator?_eq_some_iff.1 found
  obtain rfl := List.mem_singleton.1 among
  exact ⟨rfl, Item.isComma_iff.2 written⟩

/-- Without commas, nodes build no comma list. -/
theorem Builds.isSequence_eq_false {made : Expr} (builds : Builds nodes made)
    (plain : ∀ node ∈ nodes, node.isComma = false) : made.isSequence = false := by
  cases builds with
  | atom atom =>
      cases atom with
      | @paren inner _ _ => cases inner <;> rfl
      | _ => rfl
  | link _ link => cases link <;> rfl
  | @binary _ _ node operator _ _ _ writes _ =>
      cases operator with
      | comma =>
          have noComma := plain node (by simp)
          rw [Node.isComma_iff.2 writes] at noComma
          cases noComma
      | _ => rfl
  | _ => rfl

/-- The nodes have no comma, and the passes before the one for commas make these items of them. -/
structure Reduces (segment : List Node) (values : List Item) : Prop where
  plain : ∀ node ∈ segment, node.isComma = false
  done : reduceValues (itemsOf segment) = .ok values

theorem Reduces.reduce_eq {segment : List Node} {part : Expr} (reduces : Reduces segment [.expr part])
    (origin : Origin) : reduce (itemsOf segment) origin = .ok part := by
  obtain ⟨operands, done, joined⟩ := reduceValues_eq_ok_iff.1 reduces.done
  rw [Arithmetic.reduce_eq, done]
  change finish (fromFirst (reduceLevel [.comma]) (reduceTernaries _ _)) origin = _
  rw [joined]
  rfl

/-- Up to the pass for commas, every segment is reduced by itself. -/
theorem reduces_segments {values : List Item} (done : reduceValues (itemsOf nodes) = .ok values) :
    List.Forall₂ Reduces (nodes.splitOnP Node.isComma) (values.splitOnP Item.isComma) := by
  induction nodes using Node.comma_induction generalizing values with
  | single nodes plain =>
      have plainItems : ∀ item ∈ values, item.isComma = false := by
        intro item member
        rw [← Bool.not_eq_true, Item.isComma_iff]
        rintro ⟨node, inside, rfl, comma⟩
        have among := (reduceValues_built done).mem_of_raw built_keepsNodes member
        have noComma := plain node among
        rw [Node.isComma_iff.2 comma] at noComma
        cases noComma
      rw [List.splitOnP_eq_singleton plain, List.splitOnP_eq_singleton plainItems]
      exact .cons ⟨plain, done⟩ .nil
  | join nodes comma others isComma ih ihBehind =>
      have writes := Node.isComma_iff.1 isComma
      obtain ⟨former, latter, rfl, doneFormer, doneLatter⟩ := reduceValues_split writes done
      have isCommaItem : (Item.ofNode comma).isComma = true :=
        Item.isComma_iff.2 ⟨comma, _, rfl, writes⟩
      rw [List.splitOnP_append_cons _ _ isComma, List.splitOnP_append_cons _ _ isCommaItem]
      exact List.rel_append (ih doneFormer) (ihBehind doneLatter)

/-- If the pass for commas leaves one expression, there is one expression between any two commas,
and these are its parts. -/
theorem Scans.parts {left made : Expr} {rest : List Item}
    (scan : Scans (MergesInLevel [.comma]) (.expr left) rest [.expr made]) :
    ∃ parts : List Expr, rest.splitOnP Item.isComma = [] :: parts.map ([.expr ·]) ∧
      made.parts = left.parts ++ parts := by
  generalize start : Item.expr left = current at scan
  generalize finish : [Item.expr made] = items at scan
  induction scan generalizing left with
  | last =>
      cases start
      cases finish
      exact ⟨[], rfl, by simp⟩
  | merge merged _ ih =>
      cases start
      cases merged with
      | @binary _ item _ right found =>
          obtain ⟨rfl, isComma⟩ := isComma_of_operator? found
          obtain ⟨parts, split, made_eq⟩ := ih rfl finish
          refine ⟨right :: parts, ?_, by simpa [binaryOf, Expr.parts] using made_eq⟩
          have noComma : (Item.expr right).isComma = false := rfl
          simp [List.splitOnP_cons_eq_if_modifyHead, isComma, noComma, split]
  | keep _ scan _ =>
      cases finish
      exact absurd rfl scan.ne_nil

/-- The parts of what the nodes compile to are what the segments compile to by themselves. -/
theorem parts_of_compileInside {made : Expr} (compiled : compileInside node = .ok made) :
    List.Forall₂ (fun segment part => ∀ origin, reduce (itemsOf segment) origin = .ok part)
      (node.children.splitOnP Node.isComma) made.parts := by
  obtain ⟨operands, _, doneOperands, rfl, finished⟩ := compileInside_eq_ok_iff.1 compiled
  have done := reduceValues_eq_ok_iff.2 ⟨operands, doneOperands, rfl⟩
  have reduces := reduces_segments done
  generalize reduceTernaries _ _ = values at *
  cases fromFirst_reduceLevel_eq_iff.1 finished with
  | @cons first rest _ scan =>
      obtain ⟨left, rfl⟩ : ∃ left, first = .expr left := by
        cases scan with
        | last => exact ⟨made, rfl⟩
        | @merge value => exact ⟨value, rfl⟩
        | keep _ scan => exact absurd rfl scan.ne_nil
      -- The first part stands in front of the scan and comes from the first segment.
      obtain ⟨parts, split, parts_eq⟩ := scan.parts
      have cut : (Item.expr left :: rest).splitOnP Item.isComma =
          (left :: parts).map ([.expr ·]) := by
        have noComma : (Item.expr left).isComma = false := rfl
        simp [List.splitOnP_cons_eq_if_modifyHead, noComma, split]
      rw [cut, List.forall₂_map_right_iff] at reduces
      have single : left.parts = [left] := by
        obtain ⟨segment, _, first, _⟩ := List.forall₂_cons_right_iff.1 reduces
        have builds := (reduceValues_built first.done).single.builds
        exact Expr.parts_of_single (builds.isSequence_eq_false first.plain)
      rw [parts_eq, single, List.singleton_append]
      exact reduces.imp fun segment part reduces => reduces.reduce_eq

end Arithmetic

end Parlance
