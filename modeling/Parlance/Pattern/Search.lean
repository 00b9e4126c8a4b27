import Parlance.Pattern.Direct
import Parlance.Pattern.Program

/-!
# Searching for a pattern

The match of a pattern in a text is the one that starts first, and of those that start there the
preferred one. An anchored pattern is tried at the start only.
-/

namespace Parlance

/-- A pattern made ready for searching. -/
inductive Searcher where
  | direct (pattern : Pattern)
  | threaded (anchored : Bool) (program : Program)

/-- The characters of `text` that come before `rest`, a text at its end. -/
def Text.upTo (text rest : Text) : Text :=
  text.take (text.length - rest.length)

namespace Searcher

/-- Makes a pattern ready. -/
def ofPattern (pattern : Pattern) : Searcher :=
  if pattern.isDirect then direct pattern else threaded pattern.anchored (.ofPattern pattern)

/-- Tries a direct pattern at every place from the given one on. -/
def scanDirect (pattern : Pattern) : Option Char → Text → Option Text
  | before, ahead =>
      match pattern.walkFrom? ⟨before, ahead⟩ with
      | some rest => some (ahead.upTo rest)
      | none =>
          match ahead with
          | [] => none
          | char :: ahead => scanDirect pattern (some char) ahead

/-- Tries a program at every place from the given one on. What failed at one start need not be
tried again from a later one. -/
def scanProgram (program : Program) (bound : Nat) :
    Program.Visited → Nat → Option Char → Text → Option Text
  | visited, position, before, ahead =>
      match program.explore bound visited [⟨program.entry, position, ⟨before, ahead⟩⟩] with
      | (some rest, _) => some (ahead.upTo rest)
      | (none, visited) =>
          match ahead with
          | [] => none
          | char :: ahead => scanProgram program bound visited (position + 1) (some char) ahead

/-- The match in the text. -/
def find? (searcher : Searcher) (text : Text) : Option Text :=
  match searcher with
  | direct pattern =>
      if pattern.anchored then (pattern.walkFrom? (.start text)).map text.upTo
      else scanDirect pattern none text
  | threaded anchored program =>
      let bound := program.stepBound text.length
      if anchored then
        (program.explore bound {} [⟨program.entry, 0, .start text⟩]).1.map text.upTo
      else scanProgram program bound {} 0 none text

end Searcher

end Parlance
