import Parlance.Grammar.Basic
import Parlance.Text.Quoted
import Parlance.Tree.Node

/-!
# Parsing

A grammar parses a text into a tree. Inside a group, the first candidate that matches at the cursor
becomes the next child and chooses the candidates after it. Where no candidate matches, the end
marker closes the group; where that does not match either, the term between tokens is skipped. The
root is a group that ends with the text.

With backtracking, a group that fails after its start marker gives way to the next candidate, and
the first such failure is reported if nothing else matches.
-/

namespace Parlance

/-- Whether failed groups give way to other candidates, and whether groups keep their text. -/
structure ParseOptions where
  backtrack : Bool
  originalStrings : Bool
  deriving Repr, DecidableEq

/-- Neither backtracking nor the texts of groups. -/
def ParseOptions.plain : ParseOptions := ⟨false, false⟩

/-- Why a text cannot be parsed. -/
inductive ParseError where
  | syntaxError (offset : Nat) (context : Text)
  | unterminated (name : String) (marker : Text) (offset : Nat)
  deriving Repr, DecidableEq

/-- The message of the error. -/
def ParseError.message : ParseError → String
  | syntaxError offset context =>
      "syntax error at offset " ++ Nat.repr offset ++ " near " ++ String.ofList context.quoted
  | unterminated name marker offset =>
      "unterminated group '" ++ name ++ "': '" ++ String.ofList marker ++ "' opened at offset " ++
        Nat.repr offset ++ " was never closed"

/-- A place in the parsed text: its offset and the text ahead, which is missing when the offset lies
inside a character or past the end. -/
structure Cursor where
  offset : Nat
  ahead : Option Text
  deriving Repr, DecidableEq

namespace Cursor

/-- The cursor at the start of a text. -/
def start (text : Text) : Cursor := ⟨0, some text⟩

/-- The cursor moved by as many bytes as the text has. -/
def advance (cursor : Cursor) (text : Text) : Cursor :=
  ⟨cursor.offset + text.byteLength, cursor.ahead.bind (·.dropBytes? text.byteLength)⟩

end Cursor

/-- The match of the matcher at the cursor. -/
def Matcher.matchAt? (matcher : Matcher) (cursor : Cursor) : Option Text :=
  cursor.ahead.bind matcher.match?

/-- The match at an offset of a text. -/
def Matcher.matchAtOffset? (matcher : Matcher) (text : Text) (offset : Nat) : Option Text :=
  matcher.matchAt? ⟨offset, text.dropBytes? offset⟩

/-- The length of the text shown on either side of a syntax error, in characters. -/
def contextLength : Nat := 12

/-- One parse: the grammar, the options and the whole text with its length. -/
structure Parsing where
  grammar : Grammar
  options : ParseOptions
  input : Text
  size : Nat

/-- An open group: its name, its start marker, where that was found, and its end marker. The root
has no end marker. -/
structure Frame where
  name : String
  marker : Text
  opened : Cursor
  stop : Option Matcher

/-- What a group holds from some point on, up to its end. -/
structure Closed where
  children : List Node
  trailing : Text
  marker : Text
  cursor : Cursor

/-- How a group is parsed from a point inside it: the candidates there, the text skipped before
that point, and the cursor. -/
abbrev GroupBody := Frame → List TermId → (pending : Text) → Cursor → Except ParseError Closed

/-- What trying the candidates comes to: a child with its term, or no match and the first failure
that was given up on. -/
inductive Attempt where
  | matched (term : Term) (node : Node) (cursor : Cursor)
  | unmatched (rejected : Option ParseError)

namespace Parsing

/-- The syntax error at the cursor. -/
def errorAt (parsing : Parsing) (cursor : Cursor) : ParseError :=
  let before := (parsing.input.takeBytes? cursor.offset).getD []
  let after := cursor.ahead.getD []
  .syntaxError cursor.offset
    (before.takeLast contextLength ++ "<<here>>".toList ++ after.take contextLength)

/-- The node of a group that has been closed. -/
def node (parsing : Parsing) (frame : Frame) (closed : Closed) : Node :=
  let length := closed.cursor.offset - frame.opened.offset
  let content :=
    if parsing.options.originalStrings then frame.opened.ahead.bind (·.takeBytes? length) else none
  .group frame.name frame.opened.offset length frame.marker closed.marker content []
    closed.trailing closed.children

/-- Parses a group whose start marker has been found at the cursor. -/
def group (parsing : Parsing) (body : GroupBody) (name : String) (marker : Text) (stop : Matcher)
    (subgroups : List TermId) (cursor : Cursor) : Except ParseError (Node × Cursor) := do
  let frame : Frame := ⟨name, marker, cursor, some stop⟩
  let closed ← body frame subgroups [] (cursor.advance marker)
  return (parsing.node frame closed, closed.cursor)

/-- Tries the candidates in order. -/
def tryCandidates (parsing : Parsing) (body : GroupBody) (cursor : Cursor) :
    List TermId → (rejected : Option ParseError) → Except ParseError Attempt
  | [], rejected => .ok (.unmatched rejected)
  | id :: ids, rejected =>
      match parsing.grammar.term? id with
      | none => parsing.tryCandidates body cursor ids rejected
      | some term =>
          match term.start.matchAt? cursor with
          | none => parsing.tryCandidates body cursor ids rejected
          | some marker =>
              match term.body with
              | .token =>
                  .ok (.matched term
                    (.token term.name cursor.offset marker.byteLength marker [])
                    (cursor.advance marker))
              | .group stop subgroups =>
                  match parsing.group body term.name marker stop subgroups cursor with
                  | .ok (node, after) => .ok (.matched term node after)
                  | .error error =>
                      if parsing.options.backtrack then
                        parsing.tryCandidates body cursor ids (some (rejected.getD error))
                      else .error error

/-- Skips one match of the term between tokens, if there is one. -/
def trySkip (parsing : Parsing) (body : GroupBody) (cursor : Cursor) :
    Except ParseError (Option (Text × Cursor)) :=
  match parsing.grammar.aether.bind parsing.grammar.term? with
  | none => .ok none
  | some term =>
      match term.start.matchAt? cursor with
      | none => .ok none
      | some marker =>
          match term.body with
          | .token => .ok (some (marker, cursor.advance marker))
          | .group stop subgroups =>
              match parsing.group body term.name marker stop subgroups cursor with
              | .ok (node, after) => .ok (some (node.text, after))
              | .error error => if parsing.options.backtrack then .ok none else .error error

/-- Parses what is left of a group. Every round moves the cursor on, so the length of the text is
fuel enough. -/
def body (parsing : Parsing) : (fuel : Nat) → GroupBody
  | 0, _, _, _, cursor => .error (parsing.errorAt cursor)
  | fuel + 1, frame, candidates, pending, cursor =>
      if parsing.size ≤ cursor.offset then
        match frame.stop with
        | none => .ok ⟨[], pending, [], cursor⟩
        | some _ => .error (.unterminated frame.name frame.marker frame.opened.offset)
      else do
        match ← parsing.tryCandidates (parsing.body fuel) cursor candidates none with
        | .matched term node after =>
            let rest ← parsing.body fuel frame (term.candidatesAfter candidates) [] after
            return { rest with children := node.withLeading pending :: rest.children }
        | .unmatched rejected =>
            match frame.stop.bind (·.matchAt? cursor) with
            | some marker => return ⟨[], pending, marker, cursor.advance marker⟩
            | none =>
                match ← parsing.trySkip (parsing.body fuel) cursor with
                | some (skipped, after) =>
                    parsing.body fuel frame candidates (pending ++ skipped) after
                | none =>
                    match rejected with
                    | some error => throw error
                    | none => throw (parsing.errorAt cursor)

/-- Parses the whole text as the root group. -/
def run (parsing : Parsing) : Except ParseError Node := do
  let frame : Frame := ⟨parsing.grammar.rootName, [], .start parsing.input, none⟩
  let closed ←
    parsing.body (parsing.size + 1) frame parsing.grammar.root [] (.start parsing.input)
  return parsing.node frame closed

end Parsing

/-- The tree of a text. -/
def Grammar.parse (grammar : Grammar) (options : ParseOptions) (text : Text) :
    Except ParseError Node :=
  Parsing.run ⟨grammar, options, text, text.byteLength⟩

end Parlance
