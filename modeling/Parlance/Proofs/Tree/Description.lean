import Parlance.Arithmetic.Language
import Parlance.Proofs.Tree.Placement

/-!
# What the grammar describes

A grammar describes a tree of a text without reference to any cursor, fuel or order of attempts.
`Grammar.Fills` says what may stand inside a group: texts between tokens where nothing else can
stand, children that are the first of their candidates to start, and the end of the group where no
candidate starts. Without backtracking, the parser gives the described tree and nothing else, so
there is at most one.
-/

namespace Parlance

/-- The group made of these parts behind the text before it, with its source text if that is
kept. -/
def Node.assembled (keeps : Bool) (name : String) (before marker : Text) (children : List Node)
    (trailing closing : Text) : Node :=
  let span := marker ++ textOfAll children ++ trailing ++ closing
  .group name before.byteLength span.byteLength marker closing (if keeps then some span else none)
    [] trailing children

namespace Grammar

/-- No candidate starts with the text ahead. -/
def NoneStarts (grammar : Grammar) (candidates : List TermId) (ahead : Text) : Prop :=
  ∀ id ∈ candidates, ∀ term ∈ grammar.term? id, term.start.match? ahead = none

/-- The term is the first of the candidates that starts with the text ahead. -/
def FirstToStart (grammar : Grammar) (candidates : List TermId) (ahead : Text) (term : Term) :
    Prop :=
  ∃ earlier id later, candidates = earlier ++ id :: later ∧ grammar.NoneStarts earlier ahead ∧
    grammar.term? id = some term ∧ term.start.match? ahead ≠ none

mutual

/-- Behind some text, the term takes the node from the text ahead and leaves the rest. A token is
what its start marker matches, a group is filled behind its start marker. -/
inductive Reads (grammar : Grammar) (keeps : Bool) :
    (before ahead : Text) → Term → Node → (rest : Text) → Prop where
  | token {before rest term marker} (shape : term.body = .token)
      (found : term.start.match? (marker ++ rest) = some marker) :
      Reads grammar keeps before (marker ++ rest) term
        (.token term.name before.byteLength marker.byteLength marker []) rest
  | group {before inside rest term stop subgroups marker children trailing closing}
      (shape : term.body = .group stop subgroups)
      (found : term.start.match? (marker ++ inside) = some marker)
      (fills : Fills grammar keeps (some stop) subgroups (before ++ marker) inside children trailing
        closing rest) :
      Reads grammar keeps before (marker ++ inside) term
        (.assembled keeps term.name before marker children trailing closing) rest

/-- The skipped text consists of what the term between tokens takes, each time where no candidate
starts and the group does not end. -/
inductive Skips (grammar : Grammar) (keeps : Bool) :
    (stop : Option Matcher) → (candidates : List TermId) → (before ahead skipped rest : Text) →
    Prop where
  | nothing {stop candidates before ahead} :
      Skips grammar keeps stop candidates before ahead [] ahead
  | more {stop candidates before ahead skipped middle term node rest}
      (prior : Skips grammar keeps stop candidates before ahead skipped middle)
      (noneStarts : grammar.NoneStarts candidates middle)
      (stays : ∀ marker ∈ stop, marker.match? middle = none)
      (named : grammar.aether.bind grammar.term? = some term)
      (reads : Reads grammar keeps (before ++ skipped) middle term node rest) :
      Skips grammar keeps stop candidates before ahead (skipped ++ node.text) rest

/-- A group that ends with the marker `stop`, or the root, is filled from some point on: with these
children, the first of them one of the candidates, and up to its end. -/
inductive Fills (grammar : Grammar) (keeps : Bool) :
    (stop : Option Matcher) → (candidates : List TermId) → (before ahead : Text) →
    (children : List Node) → (trailing closing rest : Text) → Prop where
  | child {stop candidates before ahead leading middle term node behind children trailing closing
        rest}
      (skips : Skips grammar keeps stop candidates before ahead leading middle)
      (first : grammar.FirstToStart candidates middle term)
      (reads : Reads grammar keeps (before ++ leading) middle term node behind)
      (fills : Fills grammar keeps stop (term.candidatesAfter candidates)
        (before ++ leading ++ node.text) behind children trailing closing rest) :
      Fills grammar keeps stop candidates before ahead (node.withLeading leading :: children)
        trailing closing rest
  | closes {stop candidates before ahead trailing closing rest}
      (skips : Skips grammar keeps (some stop) candidates before ahead trailing (closing ++ rest))
      (noneStarts : grammar.NoneStarts candidates (closing ++ rest))
      (ends : stop.match? (closing ++ rest) = some closing) :
      Fills grammar keeps (some stop) candidates before ahead [] trailing closing rest
  | ends {candidates before ahead trailing}
      (skips : Skips grammar keeps none candidates before ahead trailing []) :
      Fills grammar keeps none candidates before ahead [] trailing [] []

end

/-- The tree is a root filled with the whole text. -/
def Describes (grammar : Grammar) (options : ParseOptions) (text : Text) (tree : Node) : Prop :=
  ∃ children trailing,
    Fills grammar options.originalStrings none grammar.root [] text children trailing [] [] ∧
    tree = .assembled options.originalStrings grammar.rootName [] [] children trailing []

variable {grammar : Grammar} {keeps : Bool} {stop : Option Matcher} {candidates : List TermId}
  {before ahead rest : Text}

theorem noneStarts_cons {id : TermId} {ids : List TermId} :
    grammar.NoneStarts (id :: ids) ahead ↔
      (∀ term ∈ grammar.term? id, term.start.match? ahead = none) ∧
        grammar.NoneStarts ids ahead := by
  simp [NoneStarts]

/-- The first candidate to start is the head of the list, if that starts. -/
theorem firstToStart_cons_of_starts {id : TermId} {ids : List TermId} {head term : Term}
    (named : grammar.term? id = some head) (starts : head.start.match? ahead ≠ none) :
    grammar.FirstToStart (id :: ids) ahead term ↔ term = head := by
  constructor
  · rintro ⟨earlier, other, later, split, noneStarts, otherNamed, _⟩
    cases earlier with
    | nil =>
        cases split
        exact Option.some.inj (otherNamed.symm.trans named)
    | cons first earlier =>
        cases split
        exact absurd (noneStarts id (by simp) head named) starts
  · rintro rfl
    exact ⟨[], id, ids, rfl, by simp [NoneStarts], named, starts⟩

/-- The first candidate to start is found behind the head of the list, if that does not start. -/
theorem firstToStart_cons_of_not_starts {id : TermId} {ids : List TermId} {term : Term}
    (idle : ∀ head ∈ grammar.term? id, head.start.match? ahead = none) :
    grammar.FirstToStart (id :: ids) ahead term ↔ grammar.FirstToStart ids ahead term := by
  constructor
  · rintro ⟨earlier, other, later, split, noneStarts, named, starts⟩
    cases earlier with
    | nil =>
        cases split
        exact absurd (idle term named) starts
    | cons first earlier =>
        cases split
        exact ⟨earlier, other, later, rfl, (noneStarts_cons.1 noneStarts).2, named, starts⟩
  · rintro ⟨earlier, other, later, rfl, noneStarts, named, starts⟩
    exact ⟨id :: earlier, other, later, rfl, noneStarts_cons.2 ⟨idle, noneStarts⟩, named, starts⟩

theorem not_firstToStart_nil {term : Term} : ¬grammar.FirstToStart [] ahead term := by
  rintro ⟨earlier, id, later, split, _⟩
  simp at split

theorem FirstToStart.mem_terms {term : Term} (first : grammar.FirstToStart candidates ahead term) :
    term ∈ grammar.terms := by
  obtain ⟨_, _, _, _, _, named, _⟩ := first
  exact mem_terms_of_term? named

/-- A node that is read has nothing skipped before it. -/
theorem Reads.bare {term : Term} {node : Node}
    (reads : grammar.Reads keeps before ahead term node rest) : node.leading = [] := by
  cases reads <;> rfl

/-- A node that is read is not empty. -/
theorem Reads.text_ne_nil {term : Term} {node : Node}
    (reads : grammar.Reads keeps before ahead term node rest) : node.text ≠ [] := by
  cases reads with
  | token _ found => simpa [Node.text] using Matcher.match?_ne_nil found
  | group _ found _ => simp [Node.assembled, Node.text, Matcher.match?_ne_nil found]

mutual

theorem Reads.text_eq {before ahead rest : Text} {term : Term} {node : Node} :
    grammar.Reads keeps before ahead term node rest → ahead = node.text ++ rest
  | .token _ _ => by simp [Node.text]
  | .group _ _ fills => by
      have inside := fills.text_eq
      simp [Node.assembled, Node.text, inside]

theorem Skips.text_eq {stop : Option Matcher} {candidates : List TermId}
    {before ahead skipped rest : Text} :
    grammar.Skips keeps stop candidates before ahead skipped rest → ahead = skipped ++ rest
  | .nothing => rfl
  | .more prior _ _ _ reads => by
      rw [prior.text_eq, List.append_assoc, ← reads.text_eq]

theorem Fills.text_eq {stop : Option Matcher} {candidates : List TermId} {before ahead : Text}
    {children : List Node} {trailing closing rest : Text} :
    grammar.Fills keeps stop candidates before ahead children trailing closing rest →
      ahead = Node.textOfAll children ++ trailing ++ closing ++ rest
  | .child skips _ reads fills => by
      have behind := fills.text_eq
      have bare := reads.bare
      rw [skips.text_eq, reads.text_eq, behind]
      simp [Node.textOfAll, Node.text_eq, bare]
  | .closes skips _ _ => by
      rw [skips.text_eq]
      simp [Node.textOfAll]
  | .ends skips => by
      rw [skips.text_eq]
      simp [Node.textOfAll]

end

/-- The root is filled up to the end of the text. -/
theorem Fills.root_eq {candidates : List TermId} {before ahead : Text} {children : List Node}
    {trailing closing rest : Text} :
    grammar.Fills keeps none candidates before ahead children trailing closing rest →
      closing = [] ∧ rest = []
  | .child _ _ _ fills => fills.root_eq
  | .ends _ => ⟨rfl, rfl⟩

theorem Reads.ne_nil {term : Term} {node : Node}
    (reads : grammar.Reads keeps before ahead term node rest) : ahead ≠ [] := by
  rw [reads.text_eq]
  exact List.append_ne_nil_of_left_ne_nil reads.text_ne_nil rest

theorem Reads.length_lt {term : Term} {node : Node}
    (reads : grammar.Reads keeps before ahead term node rest) : rest.length < ahead.length := by
  have positive := List.length_pos_iff.2 reads.text_ne_nil
  rw [reads.text_eq, List.length_append]
  omega

end Grammar

end Parlance
