import Parlance.Proofs.Tree.Description

/-!
# Part of the way through a group

A group is filled in stretches: from one point to another with some children, then on to its end. A
stretch has no end marker of its own, so stretches can be put together before it is known where the
group ends.
-/

namespace Parlance.Grammar

/-- Inside a group that ends with the marker `stop`, these children lead from one point to another:
from the candidates, the text before and the text ahead to the next candidates, the text before
these and the rest. -/
inductive Reaches (grammar : Grammar) (keeps : Bool) (stop : Option Matcher) :
    (candidates : List TermId) → (before ahead : Text) → (children : List Node) →
    (next : List TermId) → (there rest : Text) → Prop where
  | nothing {candidates before rest} :
      Reaches grammar keeps stop candidates before rest [] candidates before rest
  | child {candidates before ahead leading middle term node behind children next there rest}
      (skips : grammar.Skips keeps stop candidates before ahead leading middle)
      (first : grammar.FirstToStart candidates middle term)
      (reads : grammar.Reads keeps (before ++ leading) middle term node behind)
      (reaches : Reaches grammar keeps stop (term.candidatesAfter candidates)
        (before ++ leading ++ node.text) behind children next there rest) :
      Reaches grammar keeps stop candidates before ahead (node.withLeading leading :: children)
        next there rest

variable {grammar : Grammar} {keeps : Bool} {stop : Option Matcher}
  {candidates middle next : List TermId} {before ahead there behind between rest : Text}
  {children others : List Node}

theorem Reaches.trans
    (former : grammar.Reaches keeps stop candidates before ahead children middle there between)
    (latter : grammar.Reaches keeps stop middle there between others next behind rest) :
    grammar.Reaches keeps stop candidates before ahead (children ++ others) next behind rest := by
  induction former with
  | nothing => exact latter
  | child skips first reads _ ih => exact .child skips first reads (ih latter)

/-- What fills a group from the point that is reached fills it from the start of the stretch. -/
theorem Reaches.fills {trailing closing : Text}
    (reaches : grammar.Reaches keeps stop candidates before ahead children next there between)
    (fills : grammar.Fills keeps stop next there between others trailing closing rest) :
    grammar.Fills keeps stop candidates before ahead (children ++ others) trailing closing rest := by
  induction reaches with
  | nothing => exact fills
  | child skips first reads _ ih => exact .child skips first reads (ih fills)

end Parlance.Grammar
