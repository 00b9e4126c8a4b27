import Parlance.Unicode.Class
import Parlance.Unicode.Folding

/-!
# Sets of characters

The sets that a pattern matches one character against. A set is kept as it is put together, from
ranges and named classes with the operations of set algebra, and membership is decided by walking
through it. A set has a weight, since a pattern with too heavy sets is refused.
-/

namespace Parlance

/-- A set of characters. -/
inductive CharSet where
  | empty
  | range (low high : Char)
  | named (cls : Unicode.Class)
  | union (left right : CharSet)
  | inter (left right : CharSet)
  | compl (set : CharSet)
  | folded (set : CharSet)

namespace CharSet

/-- Whether the set has the character. A folded set has a character when the set under it has that
character or one that differs from it only by case. -/
def contains : CharSet → Char → Bool
  | empty, _ => false
  | range low high, char => decide (low ≤ char) && decide (char ≤ high)
  | named cls, char => cls.holds char
  | union left right, char => left.contains char || right.contains char
  | inter left right, char => left.contains char && right.contains char
  | compl set, char => !set.contains char
  | folded set, char => set.contains char || (Unicode.caseVariants char).any set.contains

/-- About how many instructions it takes to read a character of the set byte by byte. One character
takes as many as it has bytes, and a class about two for each run of its characters. A complement
has the long runs between the others besides. -/
def weight : CharSet → Nat
  | empty => 1
  | range low high => if low = high then low.utf8Size else 2 * high.utf8Size
  | named cls => 2 * cls.runs
  | union left right => left.weight + right.weight
  | inter left right => left.weight + right.weight
  | compl set => set.weight + 30
  | folded set => set.weight + 1

/-- The set of one character. -/
def single (char : Char) : CharSet := range char char

/-- The set of all characters. -/
def all : CharSet := compl empty

/-- The characters of the left set that the right set lacks. -/
def diff (left right : CharSet) : CharSet := inter left (compl right)

/-- The characters of exactly one of the sets. -/
def symmDiff (left right : CharSet) : CharSet := union (diff left right) (diff right left)

/-- The union of all the sets. -/
def unions (sets : List CharSet) : CharSet := sets.foldr union empty

/-- The characters of a set that is put together from single characters. -/
def singles? : CharSet → Option (List Char)
  | empty => some []
  | range low high => if low = high then some [low] else none
  | union left right => do
      let first ← left.singles?
      let second ← right.singles?
      return first ++ second
  | _ => none

/-- Whether the sets certainly have no character in common. Only sets put together from single
characters are compared with others. -/
def apart (left right : CharSet) : Bool :=
  match left.singles?, right.singles? with
  | some chars, _ => chars.all fun char => !right.contains char
  | none, some chars => chars.all fun char => !left.contains char
  | none, none => false

end CharSet

end Parlance
