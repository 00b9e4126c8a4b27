import Parlance.Proofs.Arithmetic.Reading
import Parlance.Proofs.Arithmetic.Resemblance
import Parlance.Proofs.Tree.Content

/-!
# The texts of brackets do not count

Compilation reads the texts of tokens only: no bracket is an operator. So a source compiles to the
same expression, with the same origins, or fails with the same error, whether groups keep their
texts or not.
-/

namespace Parlance

namespace Node

/-- No group inside is under the name of operators. -/
def BracketsAreNoOperators (tree : Node) : Prop :=
  ∀ node, tree.Contains node → node.isToken = false → node.name ≠ Arithmetic.operatorName

theorem BracketsAreNoOperators.child {node child : Node} (brackets : node.BracketsAreNoOperators)
    (member : child ∈ node.children) : child.BracketsAreNoOperators :=
  fun inner contains => brackets inner (contains_iff.2 (.inr ⟨child, member, contains⟩))

/-- What is read for an operator is the text of a token. -/
theorem BracketsAreNoOperators.isToken {node : Node} (brackets : node.BracketsAreNoOperators)
    (isRead : node.isToken = true ∨ node.name = Arithmetic.operatorName) : node.isToken = true := by
  rcases isRead with isToken | isOperator
  · exact isToken
  · rw [← Bool.not_eq_false]
    exact fun isGroup => brackets node .self isGroup isOperator

end Node

namespace Arithmetic

theorem originOf_withoutContent (node : Node) : originOf node.withoutContent = originOf node := by
  cases node <;> rfl

/-- The children of a tree are the same ones where the texts of groups are taken from the tree. -/
theorem forall₂_withoutContent {node : Node}
    (brackets : ∀ child ∈ node.children, child.BracketsAreNoOperators) :
    List.Forall₂
      (fun node other : Node => node.BracketsAreNoOperators ∧ node.withoutContent = other)
      node.children node.withoutContent.children := by
  rw [Node.children_withoutContent, Node.withoutContentAll_eq_map, List.forall₂_map_right_iff]
  exact List.forall₂_same.2 fun child member => ⟨brackets child member, rfl⟩

/-- Nodes resemble themselves without the texts of groups, in the same places. -/
def Resemblance.contentless : Resemblance where
  Same node other := node.BracketsAreNoOperators ∧ node.withoutContent = other
  placed := True
  name := by
    rintro node _ ⟨_, rfl⟩
    exact node.name_withoutContent.symm
  isToken := by
    rintro node _ ⟨_, rfl⟩
    exact node.isToken_withoutContent.symm
  content? := by
    rintro node _ ⟨brackets, rfl⟩ isRead
    rw [Node.withoutContent_of_isToken (brackets.isToken isRead)]
  children := by
    rintro node _ ⟨brackets, rfl⟩
    exact forall₂_withoutContent fun child member => brackets.child member
  origin := by
    rintro node _ ⟨_, rfl⟩ _
    exact (originOf_withoutContent node).symm

/-- Where places count, both results are equal. -/
theorem Resemblance.Ends.eq {former latter : Except CompileError Expr}
    (ends : contentless.Ends contentless.Exprs former latter) : former = latter := by
  cases ends with
  | ok same => rw [same.whole trivial]
  | error _ whole => rw [whole trivial]

theorem InLanguage.not_isOperator {node : Node} (inLanguage : InLanguage node)
    (isGroup : node.isToken = false) : node.name ≠ operatorName := by
  cases inLanguage with
  | token => cases isGroup
  | _ => simp [Node.name, operatorName]

/-- What a tree of the language compiles to does not depend on the texts of groups. -/
theorem compileTree_withoutContent {options : ParseOptions} {source : Text} {tree : Node}
    (parsed : grammar.parse options source = .ok tree) :
    compileTree tree.withoutContent = compileTree tree := by
  have brackets : ∀ child ∈ tree.children, child.BracketsAreNoOperators := by
    intro child member node contains
    have makes := Grammar.parse_makesAll parsed child member node contains
    exact (inLanguage_of_makes makes).not_isOperator
  have all : Resemblance.contentless.Lists (itemsOf tree.children)
      (itemsOf tree.withoutContent.children) :=
    itemsOf_resembles _ _ (forall₂_withoutContent brackets)
  have origins := originOf_withoutContent tree
  rw [compileTree, compileTree, compileInside_eq, compileInside_eq]
  exact (reduce_resembles all fun _ => origins.symm).eq.symm

/-- Compiles a source that is parsed with these options. -/
def compileWith (options : ParseOptions) (source : Text) : Except CompileError Expr :=
  match grammar.parse options source with
  | .ok tree => compileTree tree
  | .error error => .error (.parse error)

/-- A source compiles to the same, or fails alike, whether groups keep their texts or not. -/
theorem compileWith_eq (backtrack keeps : Bool) (source : Text) :
    compileWith ⟨backtrack, keeps⟩ source = compileWith ⟨backtrack, false⟩ source := by
  have same := grammar.parse_withoutContent backtrack keeps source
  unfold compileWith
  cases parsed : grammar.parse ⟨backtrack, keeps⟩ source with
  | error error =>
      rw [parsed] at same
      rw [← same]
      rfl
  | ok tree =>
      rw [parsed] at same
      rw [← same]
      exact (compileTree_withoutContent parsed).symm

end Arithmetic

namespace Grammar

/-- Keeping the texts of groups only adds them. With any grammar, both parses fail with the same
error, or their trees differ in nothing else; without the option no group has a text, and with it
every group has the part of the source at its place, if markers find only what stands at the cursor.
In the arithmetic language both compile to the same. -/
theorem content_only_added (grammar : Grammar) (backtrack : Bool) (text : Text) :
    (grammar.parse ⟨backtrack, true⟩ text).map Node.withoutContent =
        (grammar.parse ⟨backtrack, false⟩ text).map Node.withoutContent ∧
      (∀ tree, grammar.parse ⟨backtrack, false⟩ text = .ok tree → tree.KeepsNothing) ∧
      (grammar.FindsPrefixes →
        ∀ tree, grammar.parse ⟨backtrack, true⟩ text = .ok tree → tree.KeepsTextsOf text) ∧
      Arithmetic.compileWith ⟨backtrack, true⟩ text =
        Arithmetic.compileWith ⟨backtrack, false⟩ text := by
  refine ⟨?_, ?_, ?_, ?_⟩
  · rw [parse_withoutContent, parse_withoutContent]
  · exact fun tree parsed => keepsNothing_of_parse parsed
  · exact fun prefixes tree parsed => keepsTextsOf_of_parse prefixes parsed
  · exact Arithmetic.compileWith_eq backtrack true text

end Grammar

/-- The brackets of a call, of an index inside it and the whole source have their texts. -/
theorem Arithmetic.content_only_added_index :
    grammar.FindsPrefixes ∧
      ∃ tree, grammar.parse ⟨true, true⟩ "f( a[ 0 ] ) ".toList = .ok tree ∧
        tree.KeepsTextsOf "f( a[ 0 ] ) ".toList := by
  have succeeds : (grammar.parse ⟨true, true⟩ "f( a[ 0 ] ) ".toList).isOk = true := by
    decide +kernel
  refine ⟨grammar_findsPrefixes, ?_⟩
  cases parsed : grammar.parse ⟨true, true⟩ "f( a[ 0 ] ) ".toList with
  | error error =>
      rw [parsed] at succeeds
      cases succeeds
  | ok tree =>
      obtain ⟨_, _, keeps, _⟩ := Grammar.content_only_added grammar true "f( a[ 0 ] ) ".toList
      exact ⟨tree, rfl, keeps grammar_findsPrefixes tree parsed⟩

end Parlance
