import Parlance.Grammar.Spec
import Parlance.Pattern.Read
import Parlance.Pattern.Search
import Parlance.Text.Search

/-!
# Matchers

A marker is made ready for matching as a written pattern that is anchored at the start of the text
ahead. Its texts are written with a backslash before every operator, the longest first. A written
pattern is put into a group behind the anchor as it stands, so one that closes the group can leave
the anchor behind.
-/

namespace Parlance

/-- A marker made ready: the pattern as it is written and what searches for it. -/
structure Matcher where
  source : Text
  searcher : Searcher

namespace Matcher

/-- The match in the text ahead. The empty match does not count. -/
def match? (matcher : Matcher) (ahead : Text) : Option Text :=
  (matcher.searcher.find? ahead).filter fun found => !found.isEmpty

end Matcher

namespace Marker

/-- The text with a backslash before every operator of patterns. -/
def escape (text : Text) : Text :=
  text.flatMap fun char => if Pattern.isOperator char then ['\\', char] else [char]

/-- Puts a text in front of the first one that is not longer. -/
def placeByLength (text : Text) : List Text → List Text
  | [] => [text]
  | other :: rest =>
      if other.byteLength ≤ text.byteLength then text :: other :: rest
      else other :: placeByLength text rest

/-- The texts with longer ones first; texts of one length keep their order. -/
def longestFirst (texts : List Text) : List Text :=
  texts.foldr placeByLength []

/-- The marker as a written pattern. -/
def body : Marker → Text
  | literal text => escape text
  | anyOf texts => Text.join ['|'] ((longestFirst texts).map escape)
  | pattern source => source

/-- A written pattern in a group behind an anchor. -/
def anchor (body : Text) : Text :=
  ['^', '(', '?', ':'] ++ body ++ [')']

/-- The pattern that is read of the marker behind its anchor. -/
def anchoredPattern (marker : Marker) : Except Pattern.Flaw Pattern :=
  Pattern.read (anchor marker.body)

/-- Makes the marker ready. -/
def matcher (marker : Marker) : Except Pattern.Flaw Matcher :=
  marker.anchoredPattern.map fun pattern => ⟨anchor marker.body, .ofPattern pattern⟩

end Marker

end Parlance
