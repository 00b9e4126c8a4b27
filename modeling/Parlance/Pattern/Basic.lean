import Parlance.Pattern.CharSet
import Parlance.Text.Bytes

/-!
# Patterns

A pattern describes texts by sets of characters, conditions on the surroundings, sequence, choice
and repetition. Choices are ordered: of two branches the left one is preferred, and a repetition
prefers more rounds if it is greedy and fewer if it is not.
-/

namespace Parlance

/-- A place inside a text: the character passed last, if any, and the text still ahead. -/
structure Place where
  before : Option Char
  ahead : Text

namespace Place

/-- The place at the start of a text. -/
def start (text : Text) : Place := ⟨none, text⟩

/-- The character next ahead. -/
def next (here : Place) : Option Char := here.ahead.head?

/-- The place behind the next character, if the set has that character. -/
def advance? (set : CharSet) (here : Place) : Option Place :=
  match here.ahead with
  | [] => none
  | char :: rest => if set.contains char then some ⟨some char, rest⟩ else none

end Place

/-- Which characters are parts of words. -/
inductive WordKind where
  | unicode
  | ascii
  deriving Repr, DecidableEq

/-- The plain letters, the plain digits and the underscore. -/
def isPlainWord (char : Char) : Bool :=
  ('a' ≤ char && char ≤ 'z') || ('A' ≤ char && char ≤ 'Z') || ('0' ≤ char && char ≤ '9') ||
    char == '_'

/-- Whether there is a character and it is part of a word. -/
def WordKind.holds (kind : WordKind) : Option Char → Bool
  | none => false
  | some char =>
      match kind with
      | unicode => Unicode.isWord char
      | ascii => isPlainWord char

/-- A condition on the characters on both sides of a place. -/
inductive Assertion where
  | textStart
  | textEnd
  | lineStart
  | lineEnd
  | anyLineStart
  | anyLineEnd
  | wordBoundary (kind : WordKind)
  | noWordBoundary (kind : WordKind)
  | wordStart (kind : WordKind)
  | wordEnd (kind : WordKind)
  | noWordBefore (kind : WordKind)
  | noWordAfter (kind : WordKind)
  deriving Repr, DecidableEq

/-- Whether the condition holds at the place. Lines end at line feeds; for `anyLineStart` and
`anyLineEnd` they end also at carriage returns, and a carriage return with a line feed after it is
one line end. -/
def Assertion.holds (assertion : Assertion) (here : Place) : Bool :=
  let before := here.before
  let after := here.next
  match assertion with
  | textStart => before.isNone
  | textEnd => after.isNone
  | lineStart => before.isNone || before == some '\n'
  | lineEnd => after.isNone || after == some '\n'
  | anyLineStart =>
      before.isNone || before == some '\n' || (before == some '\r' && after != some '\n')
  | anyLineEnd =>
      after.isNone || after == some '\r' || (after == some '\n' && before != some '\r')
  | wordBoundary kind => kind.holds before != kind.holds after
  | noWordBoundary kind => kind.holds before == kind.holds after
  | wordStart kind => !kind.holds before && kind.holds after
  | wordEnd kind => kind.holds before && !kind.holds after
  | noWordBefore kind => !kind.holds before
  | noWordAfter kind => !kind.holds after

/-- A pattern. A repetition makes at least `least` rounds and at most `most`, if that is given. -/
inductive Pattern where
  | empty
  | chars (set : CharSet)
  | assertion (condition : Assertion)
  | seq (first second : Pattern)
  | alt (first second : Pattern)
  | rounds (body : Pattern) (least : Nat) (most : Option Nat) (greedy : Bool)

namespace Pattern

/-- The patterns one after the other. -/
def sequence : List Pattern → Pattern
  | [] => empty
  | [pattern] => pattern
  | pattern :: rest => seq pattern (sequence rest)

/-- The choice between the patterns, the first one preferred; without any pattern, the empty one. -/
def choice : List Pattern → Pattern
  | [] => empty
  | [pattern] => pattern
  | pattern :: rest => alt pattern (choice rest)

/-- Whether the pattern can match the empty text. Conditions are taken to hold. -/
def nullable : Pattern → Bool
  | empty => true
  | chars _ => false
  | assertion _ => true
  | seq first second => first.nullable && second.nullable
  | alt first second => first.nullable || second.nullable
  | rounds body least _ _ => least == 0 || body.nullable

/-- Whether the pattern matches only at the start of a text, since every branch asks for it. -/
def anchored : Pattern → Bool
  | assertion condition => condition == .textStart
  | seq first _ => first.anchored
  | alt first second => first.anchored && second.anchored
  | _ => false

/-- About how many instructions the pattern takes when it is compiled to a machine that reads byte
by byte, with repetitions written out. -/
def size : Pattern → Nat
  | empty => 1
  | chars set => set.weight
  | assertion _ => 1
  | seq first second => first.size + second.size
  | alt first second => first.size + second.size + 1
  | rounds body least (some most) _ => least * body.size + (most - least) * (body.size + 1) + 1
  | rounds body least none _ => max least 1 * body.size + 1

end Pattern

end Parlance
