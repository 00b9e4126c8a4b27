import Parlance.Proofs.Arithmetic.Resemblance
import Parlance.Proofs.Tree.Spacing

/-!
# Compilation and places

Trees that differ only in where their nodes stand and in what is skipped compile to expressions that
differ only in their origins, or they fail alike.
-/

namespace Parlance

namespace Node

variable {node other : Node}

theorem name_eq_of_bare (same : node.bare = other.bare) : node.name = other.name := by
  cases node <;> cases other <;> simp_all [bare, name]

theorem isToken_eq_of_bare (same : node.bare = other.bare) : node.isToken = other.isToken := by
  cases node <;> cases other <;> simp_all [bare, isToken]

theorem content?_eq_of_bare (same : node.bare = other.bare) : node.content? = other.content? := by
  cases node <;> cases other <;> simp_all [bare, content?]

theorem children_of_bare (same : node.bare = other.bare) :
    bareAll node.children = bareAll other.children := by
  cases node <;> cases other <;> simp_all [bare, children]

/-- Lists are the same without places where their trees are. -/
theorem forall₂_of_bareAll {nodes others : List Node} (same : bareAll nodes = bareAll others) :
    List.Forall₂ (fun node other : Node => node.bare = other.bare) nodes others := by
  induction nodes generalizing others with
  | nil =>
      cases others with
      | nil => exact .nil
      | cons _ _ => cases same
  | cons node rest ih =>
      cases others with
      | nil => cases same
      | cons other _ =>
          obtain ⟨first, behind⟩ := List.cons.inj same
          exact .cons first (ih behind)

end Node

namespace Arithmetic

/-- Both end with results that are alike, or both with errors that differ only in their offsets. -/
inductive EndAlike {α : Type} (alike : α → α → Prop) :
    Except CompileError α → Except CompileError α → Prop where
  | ok {left right} (same : alike left right) : EndAlike alike (.ok left) (.ok right)
  | error {left right : CompileError} (same : left.bare = right.bare) :
      EndAlike alike (.error left) (.error right)

namespace Resemblance

/-- Trees resemble each other wherever their nodes stand and whatever is skipped. -/
def anywhere : Resemblance where
  Same node other := node.bare = other.bare
  placed := False
  name := Node.name_eq_of_bare
  isToken := Node.isToken_eq_of_bare
  content? same _ := Node.content?_eq_of_bare same
  children same := Node.forall₂_of_bareAll (Node.children_of_bare same)
  origin _ placed := placed.elim

/-- Where places do not count, the expressions differ only in their origins. -/
theorem Ends.endAlike {former latter : Except CompileError Expr}
    (ends : anywhere.Ends anywhere.Exprs former latter) : EndAlike Expr.Alike former latter := by
  cases ends with
  | ok same => exact .ok same.alike
  | error bare _ => exact .error bare

end Resemblance

/-- Children that differ only in places and in what is skipped are reduced alike. -/
theorem reduce_alike {nodes others : List Node} (same : Node.bareAll nodes = Node.bareAll others)
    (origin originToo : Origin) :
    EndAlike Expr.Alike (reduce (itemsOf nodes) origin) (reduce (itemsOf others) originToo) := by
  have all : Resemblance.anywhere.Lists (itemsOf nodes) (itemsOf others) :=
    itemsOf_resembles nodes others (Node.forall₂_of_bareAll same)
  exact (reduce_resembles all fun placed => placed.elim).endAlike

/-- Trees that differ only in places and in what is skipped compile alike. -/
theorem compileInside_alike (node other : Node) (same : node.bare = other.bare) :
    EndAlike Expr.Alike (compileInside node) (compileInside other) := by
  have same : Resemblance.anywhere.Same node other := same
  exact (compileInside_resembles node other same).endAlike

end Arithmetic

end Parlance
