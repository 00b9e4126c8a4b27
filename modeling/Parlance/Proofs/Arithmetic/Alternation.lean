import Parlance.Proofs.Arithmetic.Reading
import Parlance.Proofs.Arithmetic.Rewriting
import Parlance.Proofs.Tree.Acceptance

/-!
# Alternation

Operands and operations alternate between brackets: behind the start of the brackets, an operator or
a sign an operand is due, behind an operand an operation. The grammar reads trees of this kind only,
and rewriting keeps to it. So no two expressions ever meet in a work list. Half a ternary always
stands behind its question mark.
-/

namespace Parlance.Arithmetic

/-- What may come next in a list: an operation, an operand, or an operand or half a ternary. -/
inductive Due where
  | operation
  | operand
  | branches

/-- Whether nodes of this name start an operand. -/
def startsOperand (name : String) : Bool :=
  ["paren", "prefix", "number", "string", "identifier"].contains name

/-- Whether an operand follows on nodes of this name. -/
def awaitsOperand (name : String) : Bool := ["prefix", operatorName].contains name

namespace Due

/-- Whether an operand may come. -/
def isOperand : Due → Bool
  | operation => false
  | operand | branches => true

/-- Whether this item may come. -/
def admits (due : Due) : Item → Bool
  | .raw node _ => startsOperand node.name == due.isOperand
  | .expr _ => due.isOperand
  | .branches .. => match due with
    | branches => true
    | operation | operand => false

end Due

/-- What is due behind the item. -/
def Item.leaves (item : Item) : Due :=
  match item with
  | .raw node _ =>
      if item.isQuestion then .branches else if awaitsOperand node.name then .operand else .operation
  | .expr _ | .branches .. => .operation

/-- What is due behind the items, if this is due before them. -/
def dueAfter (due : Due) (items : List Item) : Due := items.foldl (fun _ item => item.leaves) due

/-- Each of the items is due where it stands. -/
def Alternates : Due → List Item → Prop
  | _, [] => True
  | due, item :: rest => due.admits item = true ∧ Alternates item.leaves rest

variable {due : Due} {items left right window : List Item} {item made : Item} {node : Node}
  {inside : Except CompileError Expr}

theorem alternates_append :
    Alternates due (left ++ right) ↔ Alternates due left ∧ Alternates (dueAfter due left) right := by
  induction left generalizing due with
  | nil => simp [Alternates, dueAfter]
  | cons item rest ih =>
      simp only [List.cons_append, Alternates, ih, and_assoc]
      rfl

/-- An operand follows on a node whose name says so. -/
theorem isOperand_leaves : (Item.raw node inside).leaves.isOperand = awaitsOperand node.name := by
  by_cases opens : (Item.raw node inside).isQuestion = true
  · obtain ⟨_, _, ⟨⟩, writes⟩ := Item.isQuestion_iff.1 opens
    rw [Item.leaves, if_pos opens, writes.1]
    rfl
  · rw [Item.leaves, if_neg opens]
    split
    · rename_i awaits
      rw [awaits]
      rfl
    · rename_i awaits
      rw [Bool.not_eq_true] at awaits
      rw [awaits]
      rfl

theorem leaves_of_name {name : String} (named : node.name = name)
    (ends : awaitsOperand name = false) : (Item.raw node inside).leaves = .operation := by
  have isOperand := @isOperand_leaves node inside
  rw [named, ends] at isOperand
  cases due : (Item.raw node inside).leaves with
  | operation => rfl
  | _ =>
      rw [due] at isOperand
      cases isOperand

theorem leaves_of_isQuestion (opens : item.isQuestion = true) : item.leaves = .branches := by
  obtain ⟨node, inside, rfl, _⟩ := Item.isQuestion_iff.1 opens
  rw [Item.leaves, if_pos opens]

/-- Where a node of this name may come, an expression may come, if the name is that of operands. -/
theorem isOperand_of_admits {name : String} (named : node.name = name)
    (starts : startsOperand name = true) (admits : due.admits (.raw node inside) = true) :
    due.isOperand = true := by
  rw [Due.admits, named, starts] at admits
  simpa using admits

/-! ### Rewriting -/

/-- What is built is due where the window stands, and the same is due behind it. -/
theorem Reduction.Fits.alternates {reduction : Reduction} (fits : reduction.Fits left window)
    (builds : reduction.build? window = some (.ok made))
    (alternates : Alternates (dueAfter due left) window) :
    (dueAfter due left).admits made = true ∧
      dueAfter (dueAfter due left) window = made.leaves := by
  cases fits with
  | literal named =>
      obtain ⟨value, _, rfl⟩ := map_eq_ok_iff.1 (Option.some.inj builds)
      rcases named with number | string
      · exact ⟨isOperand_of_admits number.2 rfl alternates.1, leaves_of_name number.2 rfl⟩
      · exact ⟨isOperand_of_admits string.2 rfl alternates.1, leaves_of_name string.2 rfl⟩
  | symbol named =>
      cases Option.some.inj builds
      exact ⟨isOperand_of_admits named.2 rfl alternates.1, leaves_of_name named.2 rfl⟩
  | group named =>
      obtain ⟨value, _, rfl⟩ := map_eq_ok_iff.1 (Option.some.inj builds)
      exact ⟨isOperand_of_admits named.2 rfl alternates.1, leaves_of_name named.2 rfl⟩
  | member dotted named =>
      cases Option.some.inj builds
      exact ⟨alternates.1, leaves_of_name named.2 rfl⟩
  | call named | index named | step named =>
      obtain ⟨value, _, rfl⟩ := map_eq_ok_iff.1 (Option.some.inj builds)
      exact ⟨alternates.1, leaves_of_name named.2 rfl⟩
  | unary named =>
      obtain ⟨value, _, rfl⟩ := map_eq_ok_iff.1 (Option.some.inj builds)
      exact ⟨isOperand_of_admits named.2 rfl alternates.1, rfl⟩
  | binary =>
      obtain ⟨value, _, rfl⟩ := map_eq_ok_iff.1 (Option.some.inj builds)
      exact ⟨alternates.1, rfl⟩
  | branches before opens =>
      cases Option.some.inj builds
      refine ⟨?_, rfl⟩
      rw [before, dueAfter, List.foldl_append]
      simp [leaves_of_isQuestion opens, Due.admits]
  | ternary =>
      cases Option.some.inj builds
      exact ⟨alternates.1, rfl⟩

/-- Rewriting keeps to the alternation. -/
theorem Rewrites.alternates {former latter : List Item} (rewrites : Rewrites former latter)
    (alternates : Alternates due former) : Alternates due latter := by
  obtain ⟨reduction, left, window, right, made, rfl, rfl, fits, builds⟩ := rewrites.exists_fits
  rw [List.append_assoc, alternates_append, alternates_append] at alternates
  obtain ⟨before, within, behind⟩ := alternates
  obtain ⟨isDue, same⟩ := fits.alternates builds within
  rw [same] at behind
  exact alternates_append.2 ⟨before, isDue, behind⟩

theorem Becomes.alternates {former latter : List Item} (becomes : Becomes former latter)
    (alternates : Alternates due former) : Alternates due latter := by
  induction becomes with
  | refl => exact alternates
  | tail _ rewrites ih => exact rewrites.alternates ih

/-! ### Parse trees -/

/-- Whether all candidates start operands, or none of them does, and each of them brings its own
candidates for what comes next. -/
def readyFor (awaited : Bool) (candidates : List TermId) : Bool :=
  candidates.all fun id => outlines[id]?.any fun outline =>
    startsOperand outline.name == awaited && outline.next.isSome

/-- The candidates behind a term are ready for what its name says, those inside for operands. -/
theorem outlines_ready :
    (∀ outline ∈ outlines, outline.keeps = false ∧ readyFor true outline.inside = true ∧
      outline.next.all (readyFor (awaitsOperand outline.name)) = true) ∧
    readyFor true valueIds = true := by
  decide

variable {term : Term} {candidates : List TermId} {awaited : Bool}

/-- If these candidates are ready, so are those that a term has inside it and behind it. -/
def Grammar.Alternates (grammar : Grammar) (ready : Bool → List TermId → Prop) : Prop :=
  ∀ awaited candidates ahead term, ready awaited candidates →
    grammar.FirstToStart candidates ahead term → startsOperand term.name = awaited ∧
      ready true term.subgroups ∧ ready (awaitsOperand term.name) (term.candidatesAfter candidates)

theorem grammar_alternates :
    Grammar.Alternates grammar fun awaited candidates => readyFor awaited candidates = true := by
  rintro awaited _ ahead term ready ⟨earlier, id, later, rfl, _, named, _⟩
  have here := List.all_eq_true.1 ready id (by simp)
  obtain ⟨outline, listed, passes⟩ := (Option.any_eq_true _ _).1 here
  obtain ⟨keeps, inside, next⟩ := outlines_ready.1 outline (List.mem_of_getElem? listed)
  obtain rfl := outlineOf_eq named listed
  rw [Bool.and_eq_true, beq_iff_eq] at passes
  obtain ⟨ids, after⟩ := Option.isSome_iff_exists.1 passes.2
  refine ⟨passes.1, inside, ?_⟩
  simp only [outlineOf] at after keeps next
  rw [after] at next
  simpa [Term.candidatesAfter, after, keeps] using next

/-- The brackets of the node and all those inside it hold operands and operations in turn. -/
def AlternatesInside (tree : Node) : Prop :=
  ∀ node, tree.Contains node → Alternates .operand (itemsOf node.children)

theorem name_withLeading (node : Node) (leading : Text) :
    (node.withLeading leading).name = node.name := by
  cases node <;> rfl

theorem AlternatesInside.withLeading (inside : AlternatesInside node) (leading : Text) :
    AlternatesInside (node.withLeading leading) := by
  have children : (node.withLeading leading).children = node.children := by cases node <;> rfl
  intro inner contains
  rcases Node.contains_withLeading contains with rfl | contains
  · rw [children]
    exact inside node .self
  · exact inside inner contains

section

variable {grammar : Grammar} {ready : Bool → List TermId → Prop}

mutual

theorem alternatesInside_of_reads {keeps : Bool} {before ahead rest : Text} {term : Term}
    {node : Node} (alternating : Grammar.Alternates grammar ready) (isReady : ready true term.subgroups) :
    grammar.Reads keeps before ahead term node rest →
      node.name = term.name ∧ AlternatesInside node
  | .token _ _ => by
      refine ⟨rfl, fun inner contains => ?_⟩
      rcases Node.contains_iff.1 contains with rfl | ⟨child, member, _⟩
      · exact trivial
      · cases member
  | .group shape _ fills => by
      rw [Term.subgroups, shape] at isReady
      obtain ⟨alternates, inside⟩ := @alternates_of_fills _ _ _ _ _ _ _ _ _ .operand alternating isReady fills
      refine ⟨rfl, fun inner contains => ?_⟩
      rcases Node.contains_iff.1 contains with rfl | ⟨child, member, contains⟩
      · exact alternates
      · exact inside child member inner contains

theorem alternates_of_fills {keeps : Bool} {stop : Option Matcher} {candidates : List TermId}
    {before ahead : Text} {children : List Node} {trailing closing rest : Text} {due : Due}
    (alternating : Grammar.Alternates grammar ready)
    (isReady : ready due.isOperand candidates) :
    grammar.Fills keeps stop candidates before ahead children trailing closing rest →
      Alternates due (itemsOf children) ∧ ∀ child ∈ children, AlternatesInside child
  | .child skips first reads fills => by
      obtain ⟨starts, subgroups, after⟩ := alternating _ _ _ _ isReady first
      obtain ⟨named, inside⟩ := alternatesInside_of_reads alternating subgroups reads
      rename_i leading _ _ node _ _
      rw [← named, ← name_withLeading node leading] at starts after
      rw [← @isOperand_leaves _ (compileInside (node.withLeading leading))] at after
      obtain ⟨alternates, behind⟩ := alternates_of_fills alternating after fills
      refine ⟨⟨by rw [Due.admits, starts, beq_self_eq_true], alternates⟩, fun child member => ?_⟩
      rcases List.mem_cons.1 member with rfl | member
      · exact inside.withLeading leading
      · exact behind child member
  | .closes _ _ _ => ⟨trivial, by simp⟩
  | .ends _ => ⟨trivial, by simp⟩

end

end

/-- All brackets of a parse tree hold operands and operations in turn. -/
theorem alternatesInside_of_parse {source : Text} {tree : Node}
    (parsed : grammar.parse .plain source = .ok tree) : AlternatesInside tree := by
  have describes := ((Grammar.parse_eq_ok_iff_describes grammar_findsPrefixes rfl).1 tree).1 parsed
  obtain ⟨children, trailing, fills, rfl⟩ := describes
  have ready : readyFor Due.operand.isOperand grammar.root = true := by
    rw [grammar_outlined.2.1]
    exact outlines_ready.2
  obtain ⟨alternates, inside⟩ := alternates_of_fills grammar_alternates ready fills
  intro inner contains
  rcases Node.contains_iff.1 contains with rfl | ⟨child, member, contains⟩
  · exact alternates
  · exact inside child member inner contains

end Parlance.Arithmetic
