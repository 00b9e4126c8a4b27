import Mathlib.Data.List.Forall2
import Mathlib.Data.List.Induction
import Parlance.Proofs.Arithmetic.Item

/-!
# Trees that compile alike

Every pass looks at names, at the texts of tokens and at whether brackets hold nothing, and copies
places only into origins and offsets. So trees that agree on the former compile to expressions that
differ at most in their origins, or they fail with errors that differ at most in their offsets. If
the trees agree on places too, the results are equal.
-/

namespace Parlance

/-- The expressions differ only in their origins. -/
def Expr.Alike (left right : Expr) : Prop := left.bare = right.bare

namespace Arithmetic

/-- The error without its offset. -/
def CompileError.bare : CompileError → CompileError
  | parse error => parse error
  | unreduced _ remaining => unreduced 0 remaining
  | incompleteTernary _ => incompleteTernary 0
  | unknownOperator symbol _ => unknownOperator symbol 0
  | invalidLiteral text _ => invalidLiteral text 0

/-- Which nodes count as the same, and whether their places count. Nodes that count as the same
agree on all that is looked at when they are compiled, and so do the nodes inside them. -/
structure Resemblance where
  Same : Node → Node → Prop
  placed : Prop
  name : ∀ {node other}, Same node other → node.name = other.name
  isToken : ∀ {node other}, Same node other → node.isToken = other.isToken
  content? : ∀ {node other}, Same node other → node.isToken = true ∨ node.name = operatorName →
    node.content? = other.content?
  children : ∀ {node other}, Same node other → List.Forall₂ Same node.children other.children
  origin : ∀ {node other}, Same node other → placed → originOf node = originOf other

namespace Resemblance

variable {resemblance : Resemblance} {node other : Node}

/-- The expressions are the same, with their origins if places count. -/
structure Exprs (resemblance : Resemblance) (left right : Expr) : Prop where
  alike : left.Alike right
  whole : resemblance.placed → left = right

/-- Both end with results of which this holds, or both with the same error, with its offset if
places count. -/
inductive Ends (resemblance : Resemblance) {α : Type} (alike : α → α → Prop) :
    Except CompileError α → Except CompileError α → Prop where
  | ok {left right} (same : alike left right) : Ends resemblance alike (.ok left) (.ok right)
  | error {left right : CompileError} (bare : left.bare = right.bare)
      (whole : resemblance.placed → left = right) :
      Ends resemblance alike (.error left) (.error right)

/-- The items differ only in what does not count. -/
inductive Items (resemblance : Resemblance) : Item → Item → Prop where
  | raw {node other inside insideToo} (same : resemblance.Same node other)
      (ends : resemblance.Ends resemblance.Exprs inside insideToo) :
      Items resemblance (.raw node inside) (.raw other insideToo)
  | expr {left right} (same : resemblance.Exprs left right) :
      Items resemblance (.expr left) (.expr right)
  | branches {truthy falsy origin truthyToo falsyToo originToo}
      (same : resemblance.Exprs truthy truthyToo) (sameToo : resemblance.Exprs falsy falsyToo)
      (origins : resemblance.placed → origin = originToo) :
      Items resemblance (.branches truthy falsy origin) (.branches truthyToo falsyToo originToo)

/-- The lists have items that differ only in what does not count at the same places. -/
abbrev Lists (resemblance : Resemblance) : List Item → List Item → Prop :=
  List.Forall₂ resemblance.Items

namespace Ends

variable {α β : Type} {alike : α → α → Prop} {alikeBehind : β → β → Prop}
  {former latter : Except CompileError α}

theorem bind {next nextToo : α → Except CompileError β}
    (ends : resemblance.Ends alike former latter)
    (goOn : ∀ left right, alike left right →
      resemblance.Ends alikeBehind (next left) (nextToo right)) :
    resemblance.Ends alikeBehind (former >>= next) (latter >>= nextToo) := by
  cases ends with
  | ok same => exact goOn _ _ same
  | error bare whole => exact .error bare whole

theorem map {change changeToo : α → β} (ends : resemblance.Ends alike former latter)
    (goOn : ∀ left right, alike left right → alikeBehind (change left) (changeToo right)) :
    resemblance.Ends alikeBehind (former.map change) (latter.map changeToo) := by
  cases ends with
  | ok same => exact .ok (goOn _ _ same)
  | error bare whole => exact .error bare whole

end Ends

/-! ### Nodes -/

theorem textOf_eq (same : resemblance.Same node other) (isToken : node.isToken = true) :
    textOf node = textOf other := by
  rw [textOf, textOf, resemblance.content? same (.inl isToken)]

theorem position_eq (same : resemblance.Same node other) (placed : resemblance.placed) :
    node.position = other.position :=
  congrArg Origin.position (resemblance.origin same placed)

theorem isEmpty_children_eq (same : resemblance.Same node other) :
    node.children.isEmpty = other.children.isEmpty := by
  have lengths := (resemblance.children same).length_eq
  rw [Bool.eq_iff_iff, List.isEmpty_iff_length_eq_zero, List.isEmpty_iff_length_eq_zero, lengths]

end Resemblance

variable {resemblance : Resemblance} {node otherNode : Node} {item other : Item}
  {items others : List Item} {value valueToo : Expr} {level : List BinaryOperator}

namespace Resemblance.Items

/-- Two nodes that count as the same are tokens of one name, or neither is. -/
theorem token? (alike : resemblance.Items item other) (name : String) :
    Option.Rel (fun node otherNode : Node => resemblance.Same node otherNode ∧ node.isToken = true)
      (item.token? name) (other.token? name) := by
  cases alike with
  | raw same _ =>
      rw [Item.token?, Item.token?, ← resemblance.isToken same, ← resemblance.name same]
      split
      · rename_i matching
        exact .some ⟨same, (Bool.and_eq_true_iff.1 matching).1⟩
      · exact .none
  | expr _ => exact .none
  | branches _ _ _ => exact .none

theorem symbol?_eq (alike : resemblance.Items item other) : item.symbol? = other.symbol? := by
  cases alike with
  | raw same _ =>
      rw [Item.symbol?, Item.symbol?, ← resemblance.name same]
      split
      · rename_i isOperator
        rw [resemblance.content? same (.inr isOperator)]
      · rfl
  | expr _ => rfl
  | branches _ _ _ => rfl

theorem isQuestion_eq (alike : resemblance.Items item other) :
    item.isQuestion = other.isQuestion := by
  rw [Item.isQuestion, Item.isQuestion, alike.symbol?_eq]

theorem isColon_eq (alike : resemblance.Items item other) : item.isColon = other.isColon := by
  rw [Item.isColon, Item.isColon, alike.symbol?_eq]

theorem isBranches_eq (alike : resemblance.Items item other) :
    item.isBranches = other.isBranches := by
  cases alike <;> rfl

theorem isExpr_eq (alike : resemblance.Items item other) : item.isExpr = other.isExpr := by
  cases alike <;> rfl

theorem operator?_eq (alike : resemblance.Items item other) :
    item.operator? level = other.operator? level := by
  rw [Item.operator?, Item.operator?, alike.symbol?_eq]

theorem position_eq (alike : resemblance.Items item other) (placed : resemblance.placed) :
    item.position = other.position := by
  cases alike with
  | raw same _ => exact resemblance.position_eq same placed
  | expr same => rw [same.whole placed]
  | branches _ _ origins => exact congrArg Origin.position (origins placed)

/-- Both items are values, or the first one is none. -/
theorem values_or (alike : resemblance.Items item other) :
    (∃ value valueToo : Expr, item = .expr value ∧ other = .expr valueToo ∧
      resemblance.Exprs value valueToo) ∨ item.isExpr = false := by
  cases alike with
  | expr same => exact .inl ⟨_, _, rfl, rfl, same⟩
  | raw _ _ => exact .inr rfl
  | branches _ _ _ => exact .inr rfl

end Resemblance.Items

/-! ### What one item makes -/

theorem wrap_resembles (same : resemblance.Exprs value valueToo)
    (nodes : resemblance.Same node otherNode) :
    resemblance.Exprs (value.wrap (originOf node)) (valueToo.wrap (originOf otherNode)) where
  alike := by rw [Expr.Alike, Expr.bare_wrap, Expr.bare_wrap, same.alike]
  whole placed := by rw [same.whole placed, resemblance.origin nodes placed]

theorem reduceAtom_resembles (alike : resemblance.Items item other) :
    resemblance.Ends resemblance.Items (reduceAtom item) (reduceAtom other) := by
  cases alike with
  | expr same => exact .ok (.expr same)
  | branches same sameToo origins => exact .ok (.branches same sameToo origins)
  | @raw node otherNode inside insideToo same ends =>
      have stays : resemblance.Items (.raw node inside) (.raw otherNode insideToo) := .raw same ends
      simp only [reduceAtom, ← resemblance.isToken same, ← resemblance.name same]
      by_cases token : node.isToken = true
      · have literal (value : Constant) :
            resemblance.Exprs (.literal (originOf node) value)
              (.literal (originOf otherNode) value) :=
          ⟨rfl, fun placed => by rw [resemblance.origin same placed]⟩
        have invalid {α : Type} {alike : α → α → Prop} (text : Text) :
            resemblance.Ends alike (.error (.invalidLiteral text node.position))
              (.error (.invalidLiteral text otherNode.position)) :=
          .error rfl fun placed => by rw [resemblance.position_eq same placed]
        simp only [token, if_true, ← resemblance.textOf_eq same token]
        split
        · cases readNumber? (textOf node) with
          | none => exact invalid _
          | some number => exact .ok (.expr (literal _))
        · cases readString? (textOf node) with
          | none => exact invalid _
          | some text => exact .ok (.expr (literal _))
        · exact .ok (.expr ⟨rfl, fun placed => by rw [resemblance.origin same placed]⟩)
        · exact .ok stays
      · simp only [token, Bool.false_eq_true, if_false]
        by_cases paren : node.name = "paren"
        · simp only [paren, if_true]
          exact ends.map fun _ _ inner => .expr (wrap_resembles inner same)
        · simp only [paren, if_false]
          exact .ok stays

theorem reduceAtoms_resembles (all : resemblance.Lists items others) :
    resemblance.Ends resemblance.Lists (reduceAtoms items) (reduceAtoms others) := by
  rw [reduceAtoms, reduceAtoms]
  induction all with
  | nil => exact .ok .nil
  | cons alike _ ih =>
      rw [List.mapM_cons, List.mapM_cons]
      refine (reduceAtom_resembles alike).bind fun left right first => ?_
      exact ih.bind fun rest restToo behind => .ok (.cons first behind)

/-! ### Chains, steps and operators in front of operands -/

theorem callOf_resembles {inside insideToo : Except CompileError Expr}
    (same : resemblance.Exprs value valueToo) (nodes : resemblance.Same node otherNode)
    (ends : resemblance.Ends resemblance.Exprs inside insideToo) :
    resemblance.Ends resemblance.Exprs (callOf value node inside)
      (callOf valueToo otherNode insideToo) := by
  have origins (placed : resemblance.placed) :
      Origin.spanning node.name value.origin (originOf node) =
        Origin.spanning otherNode.name valueToo.origin (originOf otherNode) := by
    rw [resemblance.name nodes, same.whole placed, resemblance.origin nodes placed]
  rw [callOf, callOf, ← resemblance.isEmpty_children_eq nodes]
  by_cases nothing : node.children.isEmpty = true
  · simp only [nothing, if_true]
    refine .ok ⟨congrArg (Expr.callEmpty .nowhere) same.alike, fun placed => ?_⟩
    rw [origins placed, same.whole placed]
  · simp only [nothing, Bool.false_eq_true, if_false]
    refine ends.map fun left right arguments =>
      ⟨congrArg₂ (Expr.call .nowhere) same.alike arguments.alike, fun placed => ?_⟩
    rw [origins placed, same.whole placed, arguments.whole placed]

theorem indexOf_resembles {inside insideToo : Except CompileError Expr}
    (same : resemblance.Exprs value valueToo) (nodes : resemblance.Same node otherNode)
    (ends : resemblance.Ends resemblance.Exprs inside insideToo) :
    resemblance.Ends resemblance.Exprs (indexOf value node inside)
      (indexOf valueToo otherNode insideToo) := by
  refine ends.map fun left right key =>
    ⟨congrArg₂ (Expr.index .nowhere) same.alike key.alike, fun placed => ?_⟩
  rw [resemblance.name nodes, same.whole placed, resemblance.origin nodes placed, key.whole placed]

/-- The same brackets behind the same values make the same calls and indices. -/
theorem bracketOf?_resembles (same : resemblance.Exprs value valueToo)
    (alike : resemblance.Items item other) :
    Option.Rel (resemblance.Ends resemblance.Exprs) (bracketOf? value item)
      (bracketOf? valueToo other) := by
  cases alike with
  | expr _ => exact .none
  | branches _ _ _ => exact .none
  | @raw node otherNode inside insideToo nodes ends =>
      simp only [bracketOf?, Item.group?, ← resemblance.isToken nodes, ← resemblance.name nodes]
      by_cases call : (!node.isToken && node.name == "call") = true
      · simp only [call, if_true]
        exact .some (callOf_resembles same nodes ends)
      · simp only [call, Bool.false_eq_true, if_false]
        by_cases index : (!node.isToken && node.name == "index") = true
        · simp only [index, if_true]
          exact .some (indexOf_resembles same nodes ends)
        · simp only [index, Bool.false_eq_true, if_false]
          exact .none

theorem memberOf_resembles {dot dotToo : Node} (same : resemblance.Exprs value valueToo)
    (dots : resemblance.Same dot dotToo) (nodes : resemblance.Same node otherNode)
    (isToken : node.isToken = true) :
    resemblance.Exprs (memberOf value dot node) (memberOf valueToo dotToo otherNode) := by
  rw [memberOf, memberOf, resemblance.textOf_eq nodes isToken, resemblance.name dots]
  refine ⟨congrArg (Expr.member .nowhere · _) same.alike, fun placed => ?_⟩
  rw [same.whole placed, resemblance.origin nodes placed]

/-- What a value makes with an item behind it, if that is no dot with a property. -/
def bracketChain (value : Expr) (item : Item) (rest : List Item) :
    Except CompileError (List Item) :=
  match bracketOf? value item with
  | some made => made >>= fun expr => reduceChains (.expr expr) rest
  | none => (reduceChains item rest).map (.expr value :: ·)

theorem reduceChains_cons_of_not_isExpr {current : Item} (noExpr : current.isExpr = false)
    (item : Item) (rest : List Item) :
    reduceChains current (item :: rest) = (reduceChains item rest).map (current :: ·) := by
  cases current with
  | expr _ => cases noExpr
  | raw _ _ => cases rest <;> simp [reduceChains, Functor.map, Except.map]
  | branches _ _ _ => cases rest <;> simp [reduceChains, Functor.map, Except.map]

theorem reduceChains_singleton_expr (value : Expr) (item : Item) :
    reduceChains (.expr value) [item] = bracketChain value item [] := by
  rw [reduceChains, bracketChain]
  cases bracketOf? value item with
  | none => rfl
  | some made => cases made <;> rfl

theorem reduceChains_cons_expr (value : Expr) (item after : Item) (rest : List Item) :
    reduceChains (.expr value) (item :: after :: rest) =
      match item.token? "dot", after.token? "property" with
      | some dot, some property => reduceChains (.expr (memberOf value dot property)) rest
      | _, _ => bracketChain value item (after :: rest) := by
  rw [reduceChains]
  rfl

section

variable (goOn : ∀ {current currentToo : Item}, resemblance.Items current currentToo →
  resemblance.Ends resemblance.Lists (reduceChains current items) (reduceChains currentToo others))
include goOn

theorem bracketChain_resembles (same : resemblance.Exprs value valueToo)
    (alike : resemblance.Items item other) :
    resemblance.Ends resemblance.Lists (bracketChain value item items)
      (bracketChain valueToo other others) := by
  have brackets := bracketOf?_resembles same alike
  rw [bracketChain, bracketChain]
  generalize bracketOf? value item = bracket, bracketOf? valueToo other = bracketToo at brackets
  cases brackets with
  | some ends => exact ends.bind fun _ _ made => goOn (.expr made)
  | none => exact (goOn alike).map fun _ _ behind => .cons (.expr same) behind

/-- An item that is no value passes. -/
theorem reduceChains_cons_resembles {current currentToo : Item}
    (alike : resemblance.Items current currentToo) (noExpr : current.isExpr = false)
    (first : resemblance.Items item other) :
    resemblance.Ends resemblance.Lists (reduceChains current (item :: items))
      (reduceChains currentToo (other :: others)) := by
  rw [reduceChains_cons_of_not_isExpr noExpr,
    reduceChains_cons_of_not_isExpr (alike.isExpr_eq.symm.trans noExpr)]
  exact (goOn first).map fun _ _ behind => .cons alike behind

end

theorem reduceChains_resembles {current currentToo : Item}
    (alike : resemblance.Items current currentToo) (all : resemblance.Lists items others) :
    resemblance.Ends resemblance.Lists (reduceChains current items)
      (reduceChains currentToo others) := by
  -- A member takes two items, everything else takes one.
  induction items using List.twoStepInduction generalizing others current currentToo with
  | nil =>
      cases all
      exact .ok (.cons alike .nil)
  | singleton item =>
      obtain ⟨itemToo, _, first, ⟨⟩, rfl⟩ := List.forall₂_cons_left_iff.1 all
      have goOn : ∀ {current currentToo : Item}, resemblance.Items current currentToo →
          resemblance.Ends resemblance.Lists (reduceChains current [])
            (reduceChains currentToo []) :=
        fun alike => .ok (.cons alike .nil)
      rcases alike.values_or with ⟨value, valueToo, rfl, rfl, same⟩ | noExpr
      · rw [reduceChains_singleton_expr, reduceChains_singleton_expr]
        exact bracketChain_resembles goOn same first
      · exact reduceChains_cons_resembles goOn alike noExpr first
  | cons_cons item after rest ih ihRest =>
      obtain ⟨itemToo, _, first, behind, rfl⟩ := List.forall₂_cons_left_iff.1 all
      have goOn : ∀ {current currentToo : Item}, resemblance.Items current currentToo →
          resemblance.Ends resemblance.Lists (reduceChains current (after :: rest))
            (reduceChains currentToo _) :=
        fun alike => ihRest after alike behind
      rcases alike.values_or with ⟨value, valueToo, rfl, rfl, same⟩ | noExpr
      · have brackets := bracketChain_resembles goOn same first
        obtain ⟨afterToo, restToo, second, later, rfl⟩ := List.forall₂_cons_left_iff.1 behind
        have dots := first.token? "dot"
        have properties := second.token? "property"
        rw [reduceChains_cons_expr, reduceChains_cons_expr]
        generalize item.token? "dot" = dot, itemToo.token? "dot" = dotToo at dots
        generalize after.token? "property" = property,
          afterToo.token? "property" = propertyToo at properties
        cases dots with
        | none => exact brackets
        | some dots =>
            cases properties with
            | none => exact brackets
            | some nodes => exact ih (.expr (memberOf_resembles same dots.1 nodes.1 nodes.2)) later
      · exact reduceChains_cons_resembles goOn alike noExpr first

theorem stepOf_resembles (same : resemblance.Exprs value valueToo)
    (nodes : resemblance.Same node otherNode) (isToken : node.isToken = true) :
    resemblance.Ends resemblance.Exprs (stepOf value node) (stepOf valueToo otherNode) := by
  rw [stepOf, stepOf, resemblance.textOf_eq nodes isToken]
  cases Step.ofSymbol? (String.ofList (textOf otherNode)) with
  | none => exact .error rfl fun placed => by rw [resemblance.position_eq nodes placed]
  | some step =>
      refine .ok ⟨congrArg (Expr.stepAfter .nowhere step) same.alike, fun placed => ?_⟩
      rw [resemblance.name nodes, same.whole placed, resemblance.origin nodes placed]

theorem reduceSteps_cons_expr (value : Expr) (item : Item) (rest : List Item) :
    reduceSteps (.expr value) (item :: rest) =
      match item.token? "postfix" with
      | some node => stepOf value node >>= fun expr => reduceSteps (.expr expr) rest
      | none => (reduceSteps item rest).map (.expr value :: ·) := by
  rw [reduceSteps.eq_def]
  dsimp only
  cases item.token? "postfix" <;> rfl

theorem reduceSteps_resembles {current currentToo : Item}
    (alike : resemblance.Items current currentToo) (all : resemblance.Lists items others) :
    resemblance.Ends resemblance.Lists (reduceSteps current items)
      (reduceSteps currentToo others) := by
  induction all generalizing current currentToo with
  | nil => exact .ok (.cons alike .nil)
  | @cons item itemToo rest restToo first _ ih =>
      have passes := (ih first).map fun _ _ behind => List.Forall₂.cons alike behind
      cases alike with
      | raw _ _ => exact passes
      | branches _ _ _ => exact passes
      | expr same =>
          have tokens := first.token? "postfix"
          rw [reduceSteps_cons_expr, reduceSteps_cons_expr]
          generalize item.token? "postfix" = token, itemToo.token? "postfix" = tokenToo at tokens
          cases tokens with
          | none => exact passes
          | some nodes =>
              exact (stepOf_resembles same nodes.1 nodes.2).bind fun _ _ made => ih (.expr made)

theorem unaryOf_resembles (same : resemblance.Exprs value valueToo)
    (nodes : resemblance.Same node otherNode) (isToken : node.isToken = true) :
    resemblance.Ends resemblance.Exprs (unaryOf node value) (unaryOf otherNode valueToo) := by
  rw [unaryOf, unaryOf, resemblance.textOf_eq nodes isToken]
  cases UnaryOperator.ofSymbol? (String.ofList (textOf otherNode)) with
  | none => exact .error rfl fun placed => by rw [resemblance.position_eq nodes placed]
  | some operator =>
      refine .ok ⟨congrArg (Expr.unary .nowhere operator) same.alike, fun placed => ?_⟩
      rw [resemblance.name nodes, same.whole placed, resemblance.origin nodes placed]

theorem reduceUnary_resembles (all : resemblance.Lists items others) :
    resemblance.Ends resemblance.Lists (reduceUnary items) (reduceUnary others) := by
  induction all with
  | nil => exact .ok .nil
  | @cons item itemToo rest restToo first _ ih =>
      rw [reduceUnary, reduceUnary]
      refine ih.bind fun reduced reducedToo behind => ?_
      have tokens := first.token? "prefix"
      generalize item.token? "prefix" = token, itemToo.token? "prefix" = tokenToo at tokens
      cases tokens with
      | none => exact .ok (.cons first behind)
      | some nodes =>
          cases behind with
          | nil => exact .ok (.cons first .nil)
          | cons second behind =>
              cases second with
              | raw same ends => exact .ok (.cons first (.cons (.raw same ends) behind))
              | branches same sameToo origins =>
                  exact .ok (.cons first (.cons (.branches same sameToo origins) behind))
              | expr same =>
                  exact (unaryOf_resembles same nodes.1 nodes.2).bind fun _ _ made =>
                    .ok (.cons (.expr made) behind)

/-! ### Operators between operands -/

theorem binaryOf_resembles {left leftToo right rightToo : Expr} (operator : BinaryOperator)
    (same : resemblance.Exprs left leftToo) (sameToo : resemblance.Exprs right rightToo) :
    resemblance.Exprs (binaryOf operator left right) (binaryOf operator leftToo rightToo) where
  alike := congrArg₂ (Expr.binary .nowhere operator) same.alike sameToo.alike
  whole placed := by rw [same.whole placed, sameToo.whole placed]

theorem reduceLevel_cons_expr (left : Expr) (item after : Item) (rest : List Item) :
    reduceLevel level (.expr left) (item :: after :: rest) =
      match item.operator? level, after with
      | some operator, .expr right =>
          reduceLevel level (.expr (binaryOf operator left right)) rest
      | _, _ => .expr left :: reduceLevel level item (after :: rest) := by
  rw [reduceLevel.eq_def]
  dsimp only
  cases item.operator? level <;> cases after <;> rfl

theorem reduceLevel_resembles {current currentToo : Item}
    (alike : resemblance.Items current currentToo) (all : resemblance.Lists items others) :
    resemblance.Lists (reduceLevel level current items) (reduceLevel level currentToo others) := by
  induction items using List.twoStepInduction generalizing others current currentToo with
  | nil =>
      cases all
      exact .cons alike .nil
  | singleton item =>
      obtain ⟨itemToo, _, first, ⟨⟩, rfl⟩ := List.forall₂_cons_left_iff.1 all
      exact .cons alike (.cons first .nil)
  | cons_cons item after rest ih ihRest =>
      obtain ⟨itemToo, _, first, behind, rfl⟩ := List.forall₂_cons_left_iff.1 all
      have passes : resemblance.Lists (current :: reduceLevel level item (after :: rest))
          (currentToo :: _) :=
        .cons alike (ihRest after first behind)
      obtain ⟨afterToo, restToo, second, later, rfl⟩ := List.forall₂_cons_left_iff.1 behind
      cases alike with
      | raw _ _ => exact passes
      | branches _ _ _ => exact passes
      | expr same =>
          rw [reduceLevel_cons_expr, reduceLevel_cons_expr, ← first.operator?_eq]
          cases item.operator? level with
          | none => exact passes
          | some operator =>
              cases second with
              | raw _ _ => exact passes
              | branches _ _ _ => exact passes
              | expr sameToo => exact ih (.expr (binaryOf_resembles operator same sameToo)) later

theorem fromFirst_resembles {pass : Item → List Item → List Item}
    (resembles : ∀ {item other : Item} {items others : List Item}, resemblance.Items item other →
      resemblance.Lists items others → resemblance.Lists (pass item items) (pass other others))
    (all : resemblance.Lists items others) :
    resemblance.Lists (fromFirst pass items) (fromFirst pass others) := by
  cases all with
  | nil => exact .nil
  | cons first behind => exact resembles first behind

theorem fromFirstM_resembles {pass : Item → List Item → Except CompileError (List Item)}
    (resembles : ∀ {item other : Item} {items others : List Item}, resemblance.Items item other →
      resemblance.Lists items others →
      resemblance.Ends resemblance.Lists (pass item items) (pass other others))
    (all : resemblance.Lists items others) :
    resemblance.Ends resemblance.Lists (fromFirstM pass items) (fromFirstM pass others) := by
  cases all with
  | nil => exact .ok .nil
  | cons first behind => exact resembles first behind

theorem reduceAt_resembles (levels : List (List BinaryOperator))
    (all : resemblance.Lists items others) :
    resemblance.Lists (reduceAt levels items) (reduceAt levels others) := by
  induction levels with
  | nil => exact all
  | cons level levels ih => exact fromFirst_resembles reduceLevel_resembles ih

/-! ### Ternaries -/

theorem openQuestion_eq (all : resemblance.Lists items others) (depth : Nat) :
    openQuestion depth items = openQuestion depth others := by
  induction all generalizing depth with
  | nil => rfl
  | cons alike _ ih =>
      simp only [openQuestion, alike.isColon_eq, alike.isBranches_eq, alike.isQuestion_eq, ih]

theorem closesNearest_eq (all : resemblance.Lists items others) :
    closesNearest items = closesNearest others := by
  rw [closesNearest, closesNearest, openQuestion_eq (List.forall₂_take 2 all)]

theorem ternaryOf?_resembles {previous previousToo current currentToo next nextToo : Item}
    (left : resemblance.Lists items others) (before : resemblance.Items previous previousToo)
    (here : resemblance.Items current currentToo) (after : resemblance.Items next nextToo) :
    Option.Rel resemblance.Items (ternaryOf? items previous current next)
      (ternaryOf? others previousToo currentToo nextToo) := by
  have nearest := closesNearest_eq (.cons before left)
  cases before with
  | raw _ _ => exact .none
  | branches _ _ _ => exact .none
  | expr same =>
      cases after with
      | raw _ _ => exact .none
      | expr sameToo =>
          rw [ternaryOf?, ternaryOf?, here.isColon_eq, nearest]
          split
          · refine .some (.branches same sameToo fun placed => ?_)
            rw [same.whole placed, sameToo.whole placed]
          · exact .none
      | branches sameTruthy sameFalsy origins =>
          rw [ternaryOf?, ternaryOf?, here.isQuestion_eq]
          split
          · refine .some (.expr ⟨?_, fun placed => ?_⟩)
            · have condition := same.alike
              have truthy := sameTruthy.alike
              have falsy := sameFalsy.alike
              simp only [Expr.Alike, Expr.bare] at *
              rw [condition, truthy, falsy]
            · rw [same.whole placed, sameTruthy.whole placed, sameFalsy.whole placed,
                origins placed]
          · exact .none

theorem passTernaries_resembles {passed passedToo : List Item}
    (left : resemblance.Lists items others) (behind : resemblance.Lists passed passedToo) :
    resemblance.Lists (passTernaries items passed) (passTernaries others passedToo) := by
  induction items using List.twoStepInduction generalizing others passed passedToo with
  | nil =>
      cases left
      exact behind
  | singleton current =>
      obtain ⟨_, _, here, ⟨⟩, rfl⟩ := List.forall₂_cons_left_iff.1 left
      exact .cons here behind
  | cons_cons current previous rest ih ihRest =>
      obtain ⟨currentToo, _, here, before, rfl⟩ := List.forall₂_cons_left_iff.1 left
      obtain ⟨previousToo, restToo, first, earlier, rfl⟩ := List.forall₂_cons_left_iff.1 before
      cases behind with
      | nil =>
          rw [passTernaries, passTernaries]
          exact ihRest previous (.cons first earlier) (.cons here .nil)
      | @cons next nextToo later laterToo after behind =>
          have made := ternaryOf?_resembles earlier first here after
          rw [passTernaries, passTernaries]
          generalize ternaryOf? rest previous current next = ternary,
            ternaryOf? restToo previousToo currentToo nextToo = ternaryToo at made
          cases made with
          | none => exact ihRest previous (.cons first earlier) (.cons here (.cons after behind))
          | some alike => exact ih earlier (.cons alike behind)

theorem reduceTernaries_resembles (fuel : Nat) (all : resemblance.Lists items others) :
    resemblance.Lists (reduceTernaries fuel items) (reduceTernaries fuel others) := by
  induction fuel generalizing items others with
  | zero => exact all
  | succ fuel ih =>
      have passed := passTernaries_resembles (List.rel_reverse all) .nil
      rw [reduceTernaries, reduceTernaries]
      simp only [passed.length_eq, all.length_eq]
      split
      · exact all
      · exact ih passed

/-! ### All passes -/

theorem find?_resembles {test : Item → Bool}
    (agree : ∀ {item other : Item}, resemblance.Items item other → test item = test other)
    (all : resemblance.Lists items others) :
    Option.Rel resemblance.Items (items.find? test) (others.find? test) := by
  induction all with
  | nil => exact .none
  | cons alike _ ih =>
      rw [List.find?_cons, List.find?_cons, agree alike]
      split
      · exact .some alike
      · exact ih

/-- A list that is left over is reported by its length, and at its first item that is no value. -/
theorem unreduced_resembles {α : Type} {alike : α → α → Prop} {origin originToo : Origin}
    (all : resemblance.Lists items others) (origins : resemblance.placed → origin = originToo) :
    resemblance.Ends alike
      (.error (.unreduced
        (match items.find? fun item => !item.isExpr with
          | some item => item.position
          | none => origin.position) items.length))
      (.error (.unreduced
        (match others.find? fun item => !item.isExpr with
          | some item => item.position
          | none => originToo.position) others.length)) := by
  refine .error (congrArg (CompileError.unreduced 0) all.length_eq) fun placed => ?_
  have found : Option.Rel resemblance.Items (items.find? fun item => !item.isExpr)
      (others.find? fun item => !item.isExpr) :=
    find?_resembles (fun alike => congrArg not alike.isExpr_eq) all
  rw [all.length_eq]
  congr 1
  generalize (items.find? fun item => !item.isExpr) = former,
    (others.find? fun item => !item.isExpr) = latter at found
  cases found with
  | some alike => exact alike.position_eq placed
  | none => rw [origins placed]

theorem finish_resembles {origin originToo : Origin} (all : resemblance.Lists items others)
    (origins : resemblance.placed → origin = originToo) :
    resemblance.Ends resemblance.Exprs (finish items origin) (finish others originToo) := by
  have leftOver : Option.Rel resemblance.Items
      (items.find? fun item => item.isQuestion || item.isColon || item.isBranches)
      (others.find? fun item => item.isQuestion || item.isColon || item.isBranches) := by
    refine find?_resembles (fun alike => ?_) all
    rw [alike.isQuestion_eq, alike.isColon_eq, alike.isBranches_eq]
  have unreduced : resemblance.Ends resemblance.Exprs _ _ := unreduced_resembles all origins
  unfold finish
  generalize (items.find? fun item => item.isQuestion || item.isColon || item.isBranches) = former,
    (others.find? fun item => item.isQuestion || item.isColon || item.isBranches) = latter
    at leftOver
  cases leftOver with
  | some alike => exact .error rfl fun placed => by rw [alike.position_eq placed]
  | none =>
      cases all with
      | nil => exact unreduced
      | cons first behind =>
          cases behind with
          | nil =>
              cases first with
              | raw _ _ => exact unreduced
              | branches _ _ _ => exact unreduced
              | expr same => exact .ok same
          | cons _ _ => cases first <;> exact unreduced

theorem reduceOperands_resembles (all : resemblance.Lists items others) :
    resemblance.Ends resemblance.Lists (reduceOperands items) (reduceOperands others) := by
  refine (reduceAtoms_resembles all).bind fun _ _ atoms => ?_
  refine (fromFirstM_resembles reduceChains_resembles atoms).bind fun _ _ chains => ?_
  exact (fromFirstM_resembles reduceSteps_resembles chains).bind fun _ _ steps =>
    reduceUnary_resembles steps

/-- Reduction depends on places in origins and offsets only. -/
theorem reduce_resembles {origin originToo : Origin} (all : resemblance.Lists items others)
    (origins : resemblance.placed → origin = originToo) :
    resemblance.Ends resemblance.Exprs (reduce items origin) (reduce others originToo) := by
  rw [reduce_eq, reduce_eq]
  refine (reduceOperands_resembles all).bind fun left right operands => ?_
  have values := reduceAt_resembles BinaryOperator.levels.reverse operands
  dsimp only
  rw [values.length_eq]
  have joined :=
    reduceTernaries_resembles (reduceAt BinaryOperator.levels.reverse right).length values
  exact finish_resembles (fromFirst_resembles reduceLevel_resembles joined) origins

mutual

/-- Nodes that count as the same compile to the same, up to places that do not count. -/
theorem compileInside_resembles : ∀ node other : Node, resemblance.Same node other →
    resemblance.Ends resemblance.Exprs (compileInside node) (compileInside other)
  | .token name position length content leading, other, same => by
      have holdsNothing : List.Forall₂ resemblance.Same [] other.children :=
        resemblance.children same
      rw [compileInside_eq other, List.forall₂_nil_left_iff.1 holdsNothing]
      exact reduce_resembles .nil (resemblance.origin same)
  | .group _ _ _ _ _ _ _ _ children, other, same => by
      rw [compileInside_eq other]
      exact reduce_resembles (itemsOf_resembles children other.children (resemblance.children same))
        (resemblance.origin same)

theorem itemsOf_resembles : ∀ nodes others : List Node, List.Forall₂ resemblance.Same nodes others →
    resemblance.Lists (itemsOf nodes) (itemsOf others)
  | [], _, .nil => .nil
  | node :: rest, other :: restToo, .cons first behind =>
      .cons (.raw first (compileInside_resembles node other first))
        (itemsOf_resembles rest restToo behind)

end

end Arithmetic

end Parlance
