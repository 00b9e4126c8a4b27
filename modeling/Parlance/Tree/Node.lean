import Parlance.Text.Bytes

/-!
# Syntax trees

The tree of a parsed text keeps every character: a token keeps its own text, a group the texts of
its markers, and both keep what was skipped before them. Positions and lengths count bytes.
-/

namespace Parlance

/-- A token, or a group with its children. `leading` is the text skipped before the node and
`trailing` the text skipped before the end of a group; `content` is the verbatim text of a group,
if it was asked for. -/
inductive Node where
  | token (name : String) (position length : Nat) (content leading : Text)
  | group (name : String) (position length : Nat) (start stop : Text) (content : Option Text)
      (leading trailing : Text) (children : List Node)
  deriving Repr

namespace Node

/-- The name of the term that the node is a match of. -/
def name : Node → String
  | token name .. => name
  | group name .. => name

/-- Where the node starts. -/
def position : Node → Nat
  | token _ position .. => position
  | group _ position .. => position

/-- How long the node is. -/
def length : Node → Nat
  | token _ _ length .. => length
  | group _ _ length .. => length

/-- The verbatim text of the node, if it is kept. -/
def content? : Node → Option Text
  | token _ _ _ content _ => some content
  | group _ _ _ _ _ content .. => content

/-- The nodes inside the node. -/
def children : Node → List Node
  | token .. => []
  | group _ _ _ _ _ _ _ _ children => children

/-- Whether the node is a token. -/
def isToken : Node → Bool
  | token .. => true
  | group .. => false

/-- The text skipped before the node. -/
def leading : Node → Text
  | token _ _ _ _ leading => leading
  | group _ _ _ _ _ _ leading .. => leading

/-- The same node after another skipped text. -/
def withLeading (leading : Text) : Node → Node
  | token name position length content _ => token name position length content leading
  | group name position length start stop content _ trailing children =>
      group name position length start stop content leading trailing children

mutual

/-- The source text of the node, with the text skipped before it. -/
def text : Node → Text
  | token _ _ _ content leading => leading ++ content
  | group _ _ _ start stop _ leading trailing children =>
      leading ++ start ++ textOfAll children ++ trailing ++ stop

/-- The source text of the nodes one after the other. -/
def textOfAll : List Node → Text
  | [] => []
  | node :: rest => node.text ++ textOfAll rest

end

end Node

end Parlance
