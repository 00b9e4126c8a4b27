import Parlance.Proofs.Arithmetic.Blank
import Parlance.Proofs.Arithmetic.Leading
import Parlance.Proofs.Arithmetic.Precedence
import Parlance.Proofs.Tree.Enclosing

/-!
# Sources in parentheses

A source that compiles also compiles in parentheses. Where its tree is the root, there is a root with
one parenthesis in it that holds the same children, and the expression is wrapped.
-/

namespace Parlance.Arithmetic

variable {source : Text} {tree node : Node} {expr : Expr}

/-- Nothing starts with a closing parenthesis. -/
theorem noneStarts_closing {candidates : List TermId} (list : grammar.IsList candidates) (rest : Text) :
    grammar.NoneStarts candidates (')' :: rest) := by
  have idle : (candidateLists.all fun ids => idleAt ids ')') = true := by decide +kernel
  exact noneStarts_of_idleAt (List.all_eq_true.1 idle candidates (mem_candidateLists list)) rest

/-- The tree of a source in parentheses has one node, which holds what the source has. -/
theorem parse_parenthesized (parsed : grammar.parse .plain source = .ok tree) :
    ∃ whole node, grammar.parse .plain ('(' :: source ++ [')']) = .ok whole ∧
      whole.children = [node] ∧ node.IsGroupOf "paren" ∧
      Node.bareAll node.children = Node.bareAll tree.children := by
  obtain ⟨children, trailing, fills, rfl⟩ := Grammar.describes_of_parse grammar_findsPrefixes rfl parsed
  obtain ⟨term, stop, first, named, shape, closes, after, found⟩ :=
    opensGroup_paren (source ++ [')'])
  have isStop : grammar.IsStop (some stop) := by
    rintro _ ⟨⟩
    exact ⟨term, first.mem_terms, by rw [Term.stop?, shape]⟩
  obtain ⟨others, fillsToo, same⟩ := skipsBlanks.fills_enclosed isStop List.mem_cons_self
    (match?_of_closing closes) (fun _ list => noneStarts_closing list []) fills (.inl rfl) ['(']
  rw [grammar_outlined.2.1] at fillsToo
  have reads : grammar.Reads false [] (['('] ++ (source ++ [')'])) term
      (.assembled false term.name [] ['('] others trailing [')']) [] :=
    .group shape found fillsToo
  have described : grammar.Describes .plain ('(' :: source ++ [')']) _ :=
    ⟨_, [], .child .nothing (grammar_outlined.2.1 ▸ first) reads (.ends .nothing), rfl⟩
  exact ⟨_, _, described.parse rfl, rfl, ⟨rfl, named⟩, same⟩

/-- A parenthesis by itself is reduced to what is inside, wrapped. -/
theorem reduce_paren (isParen : node.IsGroupOf "paren") (inside : compileInside node = .ok expr)
    (origin : Origin) : reduce (itemsOf [node]) origin = .ok (expr.wrap (originOf node)) := by
  obtain ⟨isGroup, named⟩ := isParen
  have atom : reduceAtom (.ofNode node) = .ok (.expr (expr.wrap (originOf node))) := by
    simp [reduceAtom, Item.ofNode, isGroup, named, inside, Except.map]
  rw [reduce, reduceAtoms_single atom]
  rfl

/-- What holds a parenthesis and nothing else compiles to what is inside, wrapped. -/
theorem compileInside_paren (holds : tree.children = [node]) (isParen : node.IsGroupOf "paren")
    (inside : compileInside node = .ok expr) :
    compileInside tree = .ok (expr.wrap (originOf node)) := by
  rw [compileInside_eq, holds, reduce_paren isParen inside]

/-- A source that compiles does so in parentheses, to the same expression with other origins and a
wrapper around it. -/
theorem compile_parenthesized (compiled : compile source = .ok expr) :
    ∃ other origin, compile ('(' :: source ++ [')']) = .ok (other.wrap origin) ∧
      expr.Alike other := by
  unfold compile at compiled
  split at compiled
  · rename_i tree parsed
    obtain ⟨whole, node, parsedToo, holds, isParen, same⟩ := parse_parenthesized parsed
    have alike := reduce_alike same.symm
      ⟨tree.name, tree.position, tree.length⟩ ⟨node.name, node.position, node.length⟩
    rw [← compileInside_eq, ← compileInside_eq, show compileInside tree = .ok expr from compiled]
      at alike
    generalize inside : compileInside node = ends at alike
    cases alike with
    | ok alike =>
        rename_i other
        refine ⟨other, originOf node, ?_, alike⟩
        rw [compile, parsedToo]
        exact compileInside_paren holds isParen inside
  · cases compiled

end Parlance.Arithmetic
