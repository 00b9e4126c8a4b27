import Parlance.Proofs.Pattern.Blank
import Parlance.Proofs.Tree.Acceptance
import Parlance.Proofs.Tree.Forking

/-!
# Blanks between tokens

A tree says where the tokens of its text end, so it says where blanks can be put in. In a grammar
whose term between tokens takes blanks, and whose markers look past none, the text with the blanks
has the same tree, but for the places of the nodes and for what is skipped before them.
-/

namespace Parlance

/-- The gap with blanks put in before and behind it. -/
def Text.Widens (gap wider : Text) : Prop :=
  ∃ before behind : Text, wider = before ++ gap ++ behind ∧ before.IsBlank ∧ behind.IsBlank

namespace Node

mutual

/-- The node without its place and without what is skipped before it and in it. -/
def bare : Node → Node
  | token name _ _ content _ => token name 0 0 content []
  | group name _ _ start stop content _ _ children =>
      group name 0 0 start stop content [] [] (bareAll children)

/-- The nodes without their places and without what is skipped. -/
def bareAll : List Node → List Node
  | [] => []
  | node :: rest => node.bare :: bareAll rest

end

mutual

/-- The text is that of the node, without what is skipped before it, but for blanks that have been
put in where tokens and markers start or end inside it. -/
def SpacedOut : Node → Text → Prop
  | token _ _ _ content _, text => text = content
  | group _ _ _ start stop _ _ trailing children, text => ∃ inside gap,
      SpacedOutAll children inside ∧ trailing.Widens gap ∧ text = start ++ inside ++ gap ++ stop

/-- The text is that of the nodes, but for blanks that have been put in where tokens and markers
start or end. -/
def SpacedOutAll : List Node → Text → Prop
  | [], text => text = []
  | node :: rest, text => ∃ gap inside behind, node.leading.Widens gap ∧ node.SpacedOut inside ∧
      SpacedOutAll rest behind ∧ text = gap ++ inside ++ behind

end

end Node

/-- The matcher is the start marker of a candidate or the end marker of a group. -/
def Grammar.IsMarker (grammar : Grammar) (matcher : Matcher) : Prop :=
  (∃ candidates, grammar.IsList candidates ∧ ∃ id ∈ candidates, ∃ term,
    grammar.term? id = some term ∧ term.start = matcher) ∨
    ∃ term ∈ grammar.terms, term.stop? = some matcher

/-- The term between tokens is a token that takes all blanks up to the next visible character, and
the markers start visibly and look past no blank and no other separator. -/
structure Grammar.SkipsBlanks (grammar : Grammar) (separators : List Char) : Prop where
  blanks : Unicode.blanks ⊆ separators
  aether : ∃ term, grammar.aether.bind grammar.term? = some term ∧ term.body = .token ∧
    (∀ ahead marker, term.start.match? ahead = some marker → marker.IsBlank) ∧
    ∀ gap rest : Text, gap ≠ [] → gap.IsBlank → rest.StartsVisibly →
      term.start.match? (gap ++ rest) = some gap
  visible : ∀ matcher, grammar.IsMarker matcher → ∀ char, Unicode.isBlank char = true → ∀ rest,
    matcher.match? (char :: rest) = none
  finds : ∀ matcher, grammar.IsMarker matcher → ∀ text former latter : Text,
    former.BreaksOff separators latter → matcher.match? (text ++ former) = some text →
    matcher.match? (text ++ latter) = some text
  misses : ∀ matcher other, grammar.IsMarker matcher → grammar.IsMarker other →
    ∀ text former latter : Text, former.BreaksOff separators latter →
    other.match? (text ++ former) = some text → matcher.match? (text ++ former) = none →
    matcher.match? (text ++ latter) = none

namespace Text

variable {separators : List Char} {gap wider former latter : Text}

theorem Widens.refl (gap : Text) : gap.Widens gap :=
  ⟨[], [], by simp, by simp [IsBlank], by simp [IsBlank]⟩

theorem isBlank_append {left right : Text} (blank : left.IsBlank) (blankToo : right.IsBlank) :
    (left ++ right).IsBlank := by
  intro char member
  rcases List.mem_append.1 member with member | member
  · exact blank char member
  · exact blankToo char member

theorem Widens.isBlank (widens : gap.Widens wider) (blank : gap.IsBlank) : wider.IsBlank := by
  obtain ⟨before, behind, rfl, blankBefore, blankBehind⟩ := widens
  exact isBlank_append (isBlank_append blankBefore blank) blankBehind

/-- Wherever a gap is widened, the text breaks off. -/
theorem BreaksOff.widen (separate : Unicode.blanks ⊆ separators)
    (breaks : former.BreaksOff separators latter) (widens : gap.Widens wider) :
    (gap ++ former).BreaksOff separators (wider ++ latter) := by
  obtain ⟨before, behind, rfl, blankBefore, blankBehind⟩ := widens
  rw [List.append_assoc, List.append_assoc]
  exact .blank separate blankBefore (.append (.blank separate blankBehind breaks) gap)

end Text

namespace Node

variable {separators : List Char} {node : Node} {text leading : Text}

@[simp] theorem bare_withLeading (node : Node) (leading : Text) :
    (node.withLeading leading).bare = node.bare := by
  cases node <;> rfl

@[simp] theorem spacedOut_withLeading :
    (node.withLeading leading).SpacedOut text ↔ node.SpacedOut text := by
  cases node <;> simp [withLeading, SpacedOut]

mutual

/-- A text breaks off where the nodes in it are spaced out. -/
theorem SpacedOut.breaksOff (separate : Unicode.blanks ⊆ separators) {former latter text : Text}
    (breaks : former.BreaksOff separators latter) : (node : Node) → node.SpacedOut text →
      (node.span ++ former).BreaksOff separators (text ++ latter)
  | .token _ _ _ content _, spaced => by
      rw [SpacedOut] at spaced
      rw [spaced]
      exact breaks.append content
  | .group _ _ _ start stop _ _ trailing children, spaced => by
      obtain ⟨inside, gap, spaced, widens, rfl⟩ := spaced
      have behind := SpacedOutAll.breaksOff separate ((breaks.append stop).widen separate widens)
        children spaced
      simpa [span] using behind.append start

theorem SpacedOutAll.breaksOff (separate : Unicode.blanks ⊆ separators) {former latter text : Text}
    (breaks : former.BreaksOff separators latter) : (nodes : List Node) → SpacedOutAll nodes text →
      (textOfAll nodes ++ former).BreaksOff separators (text ++ latter)
  | [], spaced => by
      rw [SpacedOutAll] at spaced
      rw [spaced]
      exact breaks
  | node :: rest, spaced => by
      obtain ⟨gap, inside, behind, widens, spaced, spacedBehind, rfl⟩ := spaced
      have later := SpacedOutAll.breaksOff separate breaks rest spacedBehind
      have here := (SpacedOut.breaksOff separate later node spaced).widen separate widens
      simpa [textOfAll, text_eq] using here

end

end Node

namespace Node

mutual

/-- The text of a node is spaced out, with no blanks put in. -/
theorem spacedOut_span : (node : Node) → node.SpacedOut node.span
  | token .. => rfl
  | group _ _ _ _ _ _ _ trailing children =>
      ⟨_, trailing, spacedOutAll_textOfAll children, .refl trailing, rfl⟩

theorem spacedOutAll_textOfAll : (nodes : List Node) → SpacedOutAll nodes (textOfAll nodes)
  | [] => rfl
  | node :: rest =>
      ⟨node.leading, node.span, _, .refl _, spacedOut_span node, spacedOutAll_textOfAll rest,
        by rw [textOfAll, text_eq]⟩

end

end Node

/-! ### Telling whether a text is spaced out -/

namespace Text

variable {gap text rest start : Text}

/-- What is left of the text behind its start. -/
def behindStart (start text : Text) : List Text :=
  if start <+: text then [text.drop start.length] else []

/-- What may be left of the text behind blanks. -/
def behindBlanks : Text → List Text
  | [] => [[]]
  | char :: rest => (char :: rest) :: if Unicode.isBlank char then behindBlanks rest else []

/-- What may be left of the text behind the gap with blanks put in before and behind it. -/
def behindGap (gap text : Text) : List Text :=
  text.behindBlanks.flatMap fun text => (behindStart gap text).flatMap behindBlanks

theorem mem_behindStart : rest ∈ behindStart start text ↔ text = start ++ rest := by
  unfold behindStart
  split
  · rename_i within
    obtain ⟨left, rfl⟩ := within
    simp [eq_comm]
  · rename_i apart
    simp only [List.not_mem_nil, false_iff]
    rintro rfl
    exact apart (List.prefix_append start rest)

theorem mem_behindBlanks :
    rest ∈ text.behindBlanks ↔ ∃ blanks : Text, blanks.IsBlank ∧ text = blanks ++ rest := by
  induction text with
  | nil =>
      rw [behindBlanks, List.mem_singleton]
      constructor
      · rintro rfl
        exact ⟨[], by simp [IsBlank], rfl⟩
      · rintro ⟨blanks, _, split⟩
        exact (List.append_eq_nil_iff.1 split.symm).2
  | cons char text ih =>
      rw [behindBlanks, List.mem_cons]
      constructor
      · rintro (rfl | member)
        · exact ⟨[], by simp [IsBlank], rfl⟩
        · by_cases blank : Unicode.isBlank char = true
          · rw [if_pos blank] at member
            obtain ⟨blanks, blankToo, rfl⟩ := ih.1 member
            exact ⟨char :: blanks, List.forall_mem_cons.2 ⟨blank, blankToo⟩, rfl⟩
          · simp [blank] at member
      · rintro ⟨blanks, blank, split⟩
        cases blanks with
        | nil => exact .inl split.symm
        | cons first blanks =>
            cases split
            obtain ⟨blankHere, blankBehind⟩ := List.forall_mem_cons.1 blank
            rw [if_pos blankHere]
            exact .inr (ih.2 ⟨blanks, blankBehind, rfl⟩)

theorem mem_behindGap :
    rest ∈ behindGap gap text ↔ ∃ wider : Text, gap.Widens wider ∧ text = wider ++ rest := by
  simp only [behindGap, List.mem_flatMap, mem_behindBlanks, mem_behindStart]
  constructor
  · rintro ⟨_, ⟨before, blankBefore, rfl⟩, _, rfl, behind, blankBehind, rfl⟩
    exact ⟨_, ⟨before, behind, rfl, blankBefore, blankBehind⟩, by simp⟩
  · rintro ⟨_, ⟨before, behind, rfl, blankBefore, blankBehind⟩, rfl⟩
    refine ⟨gap ++ (behind ++ rest), ⟨before, blankBefore, by simp⟩, behind ++ rest, rfl, ?_⟩
    exact ⟨behind, blankBehind, rfl⟩

end Text

namespace Node

mutual

/-- What may be left of the text behind the node with blanks put in. -/
def behind : Node → Text → List Text
  | token _ _ _ content _, text => Text.behindStart content text
  | group _ _ _ start stop _ _ trailing children, text =>
      (Text.behindStart start text).flatMap fun text =>
        (behindAll children text).flatMap fun text =>
          (Text.behindGap trailing text).flatMap (Text.behindStart stop)

/-- What may be left of the text behind the nodes with blanks put in. -/
def behindAll : List Node → Text → List Text
  | [], text => [text]
  | node :: rest, text =>
      (Text.behindGap node.leading text).flatMap fun text =>
        (node.behind text).flatMap (behindAll rest)

end

mutual

theorem mem_behind : (node : Node) → (text rest : Text) →
    (rest ∈ node.behind text ↔ ∃ spaced, node.SpacedOut spaced ∧ text = spaced ++ rest)
  | token .., text, rest => by
      simp [behind, SpacedOut, Text.mem_behindStart]
  | group _ _ _ start stop _ _ trailing children, text, rest => by
      simp only [behind, SpacedOut, List.mem_flatMap, Text.mem_behindStart, Text.mem_behindGap,
        mem_behindAll children]
      constructor
      · rintro ⟨_, rfl, _, ⟨inside, spaced, rfl⟩, _, ⟨gap, widens, rfl⟩, rfl⟩
        exact ⟨_, ⟨inside, gap, spaced, widens, rfl⟩, by simp⟩
      · rintro ⟨_, ⟨inside, gap, spaced, widens, rfl⟩, rfl⟩
        exact ⟨_, by simp, _, ⟨inside, spaced, rfl⟩, _, ⟨gap, widens, rfl⟩, rfl⟩

theorem mem_behindAll : (nodes : List Node) → (text rest : Text) →
    (rest ∈ behindAll nodes text ↔ ∃ spaced, SpacedOutAll nodes spaced ∧ text = spaced ++ rest)
  | [], text, rest => by
      simp [behindAll, SpacedOutAll, eq_comm]
  | node :: nodes, text, rest => by
      simp only [behindAll, SpacedOutAll, List.mem_flatMap, Text.mem_behindGap, mem_behind node,
        mem_behindAll nodes]
      constructor
      · rintro ⟨_, ⟨gap, widens, rfl⟩, _, ⟨inside, spaced, rfl⟩, later, spacedLater, rfl⟩
        exact ⟨_, ⟨gap, inside, later, widens, spaced, spacedLater, rfl⟩, by simp⟩
      · rintro ⟨_, ⟨gap, inside, later, widens, spaced, spacedLater, rfl⟩, rfl⟩
        exact ⟨_, ⟨gap, widens, by simp⟩, _, ⟨inside, spaced, rfl⟩, later, spacedLater, rfl⟩

end

instance (node : Node) (text : Text) : Decidable (node.SpacedOut text) :=
  decidable_of_iff ([] ∈ node.behind text) (by simp [mem_behind])

end Node

namespace Grammar

variable {grammar : Grammar} {separators : List Char} {candidates : List TermId} {term : Term}
  {stop : Option Matcher} {ahead rest gap : Text} {matcher : Matcher}

/-- The matcher finds one marker at the start of two texts, the latter of which breaks off behind it
where it differs from the former one. -/
def FindsAlike (separators : List Char) (matcher : Matcher) (former latter : Text) : Prop :=
  ∃ marker behind behindToo : Text, former = marker ++ behind ∧ latter = marker ++ behindToo ∧
    behind.BreaksOff separators behindToo ∧ matcher.match? former = some marker

theorem isMarker_start (list : grammar.IsList candidates) {id : TermId} (member : id ∈ candidates)
    (named : grammar.term? id = some term) : grammar.IsMarker term.start :=
  .inl ⟨candidates, list, id, member, term, named, rfl⟩

theorem FirstToStart.isMarker (first : grammar.FirstToStart candidates ahead term)
    (list : grammar.IsList candidates) : grammar.IsMarker term.start := by
  obtain ⟨earlier, id, later, rfl, _, named, _⟩ := first
  exact isMarker_start list (by simp) named

theorem IsStop.isMarker (isStop : grammar.IsStop (some matcher)) : grammar.IsMarker matcher :=
  .inr (isStop matcher rfl)

namespace SkipsBlanks

variable (skipsBlanks : grammar.SkipsBlanks separators)
include skipsBlanks

theorem noneStarts_of_blank (list : grammar.IsList candidates) {char : Char}
    (blank : Unicode.isBlank char = true) (rest : Text) :
    grammar.NoneStarts candidates (char :: rest) :=
  fun _ member _ named => skipsBlanks.visible _ (isMarker_start list member named) char blank rest

/-- Where candidates do not start, they do not start in front of a text that breaks off either. -/
theorem noneStarts_of_findsAlike {former latter : Text} (isMarker : grammar.IsMarker matcher)
    (alike : FindsAlike separators matcher former latter)
    (markers : ∀ id ∈ candidates, ∀ term ∈ grammar.term? id, grammar.IsMarker term.start)
    (noneStarts : grammar.NoneStarts candidates former) :
    grammar.NoneStarts candidates latter := by
  obtain ⟨marker, behind, behindToo, rfl, rfl, breaks, found⟩ := alike
  intro id member term named
  exact skipsBlanks.misses _ matcher (markers id member term named) isMarker marker behind behindToo
    breaks found (noneStarts id member term named)

theorem firstToStart_of_findsAlike {former latter : Text} (list : grammar.IsList candidates)
    (first : grammar.FirstToStart candidates former term)
    (alike : FindsAlike separators term.start former latter) :
    grammar.FirstToStart candidates latter term := by
  have isMarker := first.isMarker list
  obtain ⟨earlier, id, later, rfl, noneStarts, named, _⟩ := first
  have noneToo := skipsBlanks.noneStarts_of_findsAlike isMarker alike
    (fun other member term named => isMarker_start list (List.mem_append_left _ member) named) noneStarts
  obtain ⟨marker, behind, behindToo, rfl, rfl, breaks, found⟩ := alike
  have foundToo := skipsBlanks.finds _ isMarker marker behind behindToo breaks found
  exact ⟨earlier, id, later, rfl, noneToo, named, by simp [foundToo]⟩

/-- What a marker finds does not start with a blank. -/
theorem startsVisibly (isMarker : grammar.IsMarker matcher) {former latter : Text}
    (alike : FindsAlike separators matcher former latter) : latter.StartsVisibly := by
  obtain ⟨marker, behind, behindToo, rfl, rfl, _, found⟩ := alike
  obtain ⟨first, others, rfl⟩ := List.exists_cons_of_ne_nil (Matcher.match?_ne_nil found)
  rintro _ ⟨⟩
  cases blank : Unicode.isBlank first with
  | false => rfl
  | true =>
      rw [List.cons_append, skipsBlanks.visible _ isMarker first blank] at found
      cases found

/-- What is skipped is blank. -/
theorem isBlank_of_skips {stop : Option Matcher} {candidates : List TermId}
    {before ahead skipped rest : Text} :
    grammar.Skips false stop candidates before ahead skipped rest → skipped.IsBlank
  | .nothing => by simp [Text.IsBlank]
  | .more prior _ _ named reads => by
      obtain ⟨term, same, shape, blanks, _⟩ := skipsBlanks.aether
      obtain rfl := Option.some.inj (same.symm.trans named)
      refine Text.isBlank_append (isBlank_of_skips prior) ?_
      cases reads with
      | token _ found => exact blanks _ _ found
      | group grouped _ _ =>
          rw [shape] at grouped
          cases grouped

/-- Blanks in front of a visible character are skipped. -/
theorem skips_of_isBlank (list : grammar.IsList candidates) (isStop : grammar.IsStop stop)
    (blank : gap.IsBlank) (visible : rest.StartsVisibly) (before : Text) :
    grammar.Skips false stop candidates before (gap ++ rest) gap rest := by
  cases gap with
  | nil => exact .nothing
  | cons char gap =>
      obtain ⟨term, named, shape, _, takes⟩ := skipsBlanks.aether
      have found := takes (char :: gap) rest (by simp) blank visible
      have here := blank char List.mem_cons_self
      have stays : ∀ matcher ∈ stop, matcher.match? (char :: gap ++ rest) = none := by
        intro matcher ends
        exact skipsBlanks.visible matcher (.inr (isStop matcher ends)) char here _
      exact .more .nothing (skipsBlanks.noneStarts_of_blank list here _) stays named
        (.token shape found)

mutual

/-- A term reads the same node from its spaced text. -/
theorem reads_spaced {before ahead rest behind text : Text} {term : Term} {node : Node} :
    grammar.Reads false before ahead term node rest → term ∈ grammar.terms →
    grammar.IsMarker term.start → node.SpacedOut text → rest.BreaksOff separators behind → ∀ place : Text,
    ∃ other, grammar.Reads false place (text ++ behind) term other behind ∧
      other.bare = node.bare ∧ FindsAlike separators term.start ahead (text ++ behind)
  | .token shape found, _, isMarker, spaced, breaks, place => by
      rw [Node.SpacedOut] at spaced
      subst spaced
      have foundToo := skipsBlanks.finds _ isMarker _ _ _ breaks found
      exact ⟨_, .token shape foundToo, rfl, _, _, _, rfl, rfl, breaks, found⟩
  | .group shape found fills, member, isMarker, spaced, breaks, place => by
      rename_i stop subgroups marker children trailing closing
      obtain ⟨inside, gap, spaced, widens, rfl⟩ := spaced
      have isStop : grammar.IsStop (some stop) := by
        rintro _ ⟨⟩
        exact ⟨term, member, by rw [Term.stop?, shape]⟩
      have list : grammar.IsList _ := .inr ⟨term, member, .inl (by rw [Term.subgroups, shape])⟩
      obtain ⟨others, fillsToo, same⟩ := fills_spaced fills isStop list spaced widens breaks
        (by simp) (place ++ marker)
      have breaksInside := spaced.breaksOff skipsBlanks.blanks
        ((breaks.append closing).widen skipsBlanks.blanks widens)
      simp only [← List.append_assoc, ← fills.text_eq] at breaksInside
      have foundToo := skipsBlanks.finds _ isMarker _ _ _ breaksInside found
      have split : marker ++ inside ++ gap ++ closing ++ behind =
          marker ++ (inside ++ gap ++ closing ++ behind) := by simp
      rw [split]
      refine ⟨_, .group shape foundToo fillsToo, ?_, marker, _, _, rfl, rfl, breaksInside, found⟩
      simp [Node.assembled, Node.bare, same]

/-- A group is filled with the same nodes by its spaced text. -/
theorem fills_spaced {stop : Option Matcher} {candidates : List TermId}
    {before ahead trailing closing rest behind inside gap : Text} {children : List Node} :
    grammar.Fills false stop candidates before ahead children trailing closing rest →
    grammar.IsStop stop → grammar.IsList candidates → Node.SpacedOutAll children inside →
    trailing.Widens gap → rest.BreaksOff separators behind → (stop = none → behind = []) → ∀ place : Text,
    ∃ others, grammar.Fills false stop candidates place (inside ++ gap ++ closing ++ behind) others
      gap closing behind ∧ Node.bareAll others = Node.bareAll children
  | .child skips first reads fills, isStop, list, spaced, widens, breaks, atEnd, place => by
      obtain ⟨leading, text, later, widensHere, spacedHere, spaced, rfl⟩ := spaced
      rw [Node.leading_withLeading] at widensHere
      rw [Node.spacedOut_withLeading] at spacedHere
      have breaksLater := spaced.breaksOff skipsBlanks.blanks
        ((breaks.append closing).widen skipsBlanks.blanks widens)
      simp only [← List.append_assoc, ← fills.text_eq] at breaksLater
      obtain ⟨other, readsToo, same, alike⟩ := reads_spaced reads first.mem_terms
        (first.isMarker list) spacedHere breaksLater (place ++ leading)
      have firstToo := skipsBlanks.firstToStart_of_findsAlike list first alike
      have blank := widensHere.isBlank (skipsBlanks.isBlank_of_skips skips)
      have skipsToo := skipsBlanks.skips_of_isBlank list isStop blank
        (skipsBlanks.startsVisibly (first.isMarker list) alike) place
      obtain ⟨others, fillsToo, sameLater⟩ := fills_spaced fills isStop (list.after first.mem_terms)
        spaced widens breaks atEnd (place ++ leading ++ other.text)
      have split : leading ++ text ++ later ++ gap ++ closing ++ behind =
          leading ++ (text ++ (later ++ gap ++ closing ++ behind)) := by simp
      rw [split]
      refine ⟨_, .child skipsToo firstToo readsToo fillsToo, ?_⟩
      rw [Node.bareAll, Node.bareAll, Node.bare_withLeading, Node.bare_withLeading, same, sameLater]
  | .closes skips noneStarts ends, isStop, list, spaced, widens, breaks, atEnd, place => by
      rw [Node.SpacedOutAll] at spaced
      subst spaced
      have alike : FindsAlike separators _ (closing ++ rest) (closing ++ behind) :=
        ⟨_, _, _, rfl, rfl, breaks, ends⟩
      have blank := widens.isBlank (skipsBlanks.isBlank_of_skips skips)
      have skipsToo := skipsBlanks.skips_of_isBlank list isStop blank
        (skipsBlanks.startsVisibly isStop.isMarker alike) place
      have noneToo := skipsBlanks.noneStarts_of_findsAlike isStop.isMarker alike
        (fun _ member _ named => isMarker_start list member named) noneStarts
      have endsToo := skipsBlanks.finds _ isStop.isMarker _ _ _ breaks ends
      refine ⟨[], ?_, rfl⟩
      rw [List.nil_append, List.append_assoc]
      exact .closes skipsToo noneToo endsToo
  | .ends skips, isStop, list, spaced, widens, breaks, atEnd, place => by
      rw [Node.SpacedOutAll] at spaced
      subst spaced
      rw [atEnd rfl]
      have blank := widens.isBlank (skipsBlanks.isBlank_of_skips skips)
      have visible : Text.StartsVisibly [] := by simp [Text.StartsVisibly]
      have skipsToo := skipsBlanks.skips_of_isBlank list isStop blank visible place
      refine ⟨[], ?_, rfl⟩
      rw [List.nil_append, List.append_assoc]
      exact .ends skipsToo

end

/-- The text of a tree may have blanks put in between its tokens. It has the same tree, but for what
is skipped and for where the nodes stand. -/
theorem parse_spaced (prefixes : grammar.FindsPrefixes) {source text : Text} {tree : Node}
    (parsed : grammar.parse .plain source = .ok tree) (spaced : tree.SpacedOut text) :
    ∃ other, grammar.parse .plain text = .ok other ∧ other.bare = tree.bare := by
  obtain ⟨children, trailing, fills, rfl⟩ := describes_of_parse prefixes rfl parsed
  obtain ⟨inside, gap, spaced, widens, rfl⟩ := spaced
  have isStop : grammar.IsStop none := by
    rintro _ ⟨⟩
  obtain ⟨others, fillsToo, same⟩ := skipsBlanks.fills_spaced fills isStop (.inl rfl) spaced widens
    (.refl []) (fun _ => rfl) []
  rw [List.append_nil] at fillsToo
  have described : grammar.Describes .plain (inside ++ gap ++ []) _ := ⟨others, gap, fillsToo, rfl⟩
  refine ⟨_, described.parse rfl, ?_⟩
  simp [Node.assembled, Node.bare, ParseOptions.plain, same]

end SkipsBlanks

end Grammar

end Parlance
