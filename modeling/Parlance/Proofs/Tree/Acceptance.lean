import Parlance.Proofs.Tree.Description

/-!
# The parser accepts its grammar

Without backtracking, the parser and the description of trees agree. In one direction, every round
of the parser extends the text skipped so far or fills a part of the group. In the other direction, a
description is followed along its derivation, and the text ahead says how much fuel suffices.
-/

namespace Parlance

/-- A group that is filled behind some text with these parts and leaves the rest. -/
def Closed.filled (before : Text) (children : List Node) (trailing closing rest : Text) : Closed :=
  ⟨children, trailing, closing,
    .between (before ++ Node.textOfAll children ++ trailing ++ closing) rest⟩

theorem Closed.filled_nil (before trailing closing rest : Text) :
    filled before [] trailing closing rest =
      ⟨[], trailing, closing, .between (before ++ trailing ++ closing) rest⟩ := by
  simp [filled, Node.textOfAll]

theorem Closed.filled_child {node : Node} (bare : node.leading = []) (before leading : Text)
    (children : List Node) (trailing closing rest : Text) :
    filled before (node.withLeading leading :: children) trailing closing rest =
      { filled (before ++ leading ++ node.text) children trailing closing rest with
        children := node.withLeading leading :: children } := by
  simp [filled, Node.textOfAll, Node.text_eq, bare]

namespace Parsing

variable {parsing : Parsing} {inner : GroupBody} {candidates : List TermId} {before ahead : Text}

/-- The node of a group that has been filled is assembled from its parts. -/
theorem node_filled (before marker : Text) {name : String} {inside trailing closing rest : Text}
    {stop : Option Matcher} {children : List Node}
    (text : inside = Node.textOfAll children ++ trailing ++ closing ++ rest) :
    parsing.node ⟨name, marker, .between before (marker ++ inside), stop⟩
        (.filled (before ++ marker) children trailing closing rest) =
      .assembled parsing.options.originalStrings name before marker children trailing closing := by
  have span : marker ++ inside = (marker ++ Node.textOfAll children ++ trailing ++ closing) ++ rest := by
    simp [text]
  have length : (before ++ marker ++ Node.textOfAll children ++ trailing ++ closing).byteLength -
      before.byteLength = (marker ++ Node.textOfAll children ++ trailing ++ closing).byteLength := by
    simp only [Text.byteLength_append]
    omega
  rw [node, span]
  simp only [Closed.filled, Node.assembled, Cursor.between_offset, Cursor.between_ahead, length,
    Option.bind_some, Text.takeBytes?_append]

/-- The first candidate either does not start, or it is a term that finds its marker. -/
theorem idle_or_starts (grammar : Grammar) (id : TermId) (ahead : Text) :
    (∀ term ∈ grammar.term? id, term.start.match? ahead = none) ∨
      ∃ term marker, grammar.term? id = some term ∧ term.start.match? ahead = some marker := by
  cases named : grammar.term? id with
  | none => simp
  | some term =>
      cases found : term.start.match? ahead with
      | none => simp [found]
      | some marker => exact .inr ⟨term, marker, rfl, found⟩

theorem tryCandidates_cons_of_idle {id : TermId} {ids : List TermId}
    {rejected : Option ParseError}
    (idle : ∀ term ∈ parsing.grammar.term? id, term.start.match? ahead = none) :
    parsing.tryCandidates inner (.between before ahead) (id :: ids) rejected =
      parsing.tryCandidates inner (.between before ahead) ids rejected := by
  rw [tryCandidates]
  cases named : parsing.grammar.term? id with
  | none => rfl
  | some term => simp [idle term named]

/-- Without backtracking, a candidate that starts decides the attempt. -/
theorem tryCandidates_cons_of_starts (noBacktrack : parsing.options.backtrack = false)
    {id : TermId} {ids : List TermId} {rejected : Option ParseError} {term : Term} {marker : Text}
    (named : parsing.grammar.term? id = some term)
    (found : term.start.match? ahead = some marker) {attempt : Attempt} :
    parsing.tryCandidates inner (.between before ahead) (id :: ids) rejected = .ok attempt ↔
      ∃ node after, parsing.Takes inner (.between before ahead) term marker node after ∧
        attempt = .matched term node after := by
  rw [tryCandidates]
  cases shape : term.body with
  | token => simp [named, found, shape, Takes, and_assoc, eq_comm]
  | group stop subgroups =>
      cases grouped : parsing.group inner term.name marker stop subgroups
          (.between before ahead) with
      | error error => simp [named, found, shape, Takes, grouped, noBacktrack]
      | ok read =>
          obtain ⟨node, after⟩ := read
          simp [named, found, shape, Takes, grouped, and_assoc, eq_comm]

/-- Without backtracking, no match is reported exactly where no candidate starts. -/
theorem tryCandidates_eq_unmatched_iff (noBacktrack : parsing.options.backtrack = false)
    {rejected given : Option ParseError} :
    parsing.tryCandidates inner (.between before ahead) candidates given =
        .ok (.unmatched rejected) ↔
      given = rejected ∧ parsing.grammar.NoneStarts candidates ahead := by
  induction candidates with
  | nil => simp [tryCandidates, Grammar.NoneStarts]
  | cons id ids ih =>
      rcases idle_or_starts parsing.grammar id ahead with idle | ⟨term, marker, named, found⟩
      · rw [tryCandidates_cons_of_idle idle, ih, Grammar.noneStarts_cons, and_iff_right idle]
      · rw [tryCandidates_cons_of_starts noBacktrack named found, Grammar.noneStarts_cons]
        simp [named, found]

/-- Without backtracking, a match is reported exactly if the first candidate to start takes it. -/
theorem tryCandidates_eq_matched_iff (noBacktrack : parsing.options.backtrack = false)
    {given : Option ParseError} {term : Term} {node : Node} {after : Cursor} :
    parsing.tryCandidates inner (.between before ahead) candidates given =
        .ok (.matched term node after) ↔
      parsing.grammar.FirstToStart candidates ahead term ∧
        ∃ marker, term.start.match? ahead = some marker ∧
          parsing.Takes inner (.between before ahead) term marker node after := by
  induction candidates with
  | nil => simp [tryCandidates, Grammar.not_firstToStart_nil]
  | cons id ids ih =>
      rcases idle_or_starts parsing.grammar id ahead with idle | ⟨head, marker, named, found⟩
      · rw [tryCandidates_cons_of_idle idle, ih, Grammar.firstToStart_cons_of_not_starts idle]
      · rw [tryCandidates_cons_of_starts noBacktrack named found,
          Grammar.firstToStart_cons_of_starts named (by simp [found])]
        constructor
        · rintro ⟨_, _, takes, ⟨⟩⟩
          exact ⟨rfl, marker, found, takes⟩
        · rintro ⟨rfl, _, finds, takes⟩
          obtain rfl := Option.some.inj (found.symm.trans finds)
          exact ⟨node, after, takes, rfl⟩

/-- A body that gives only what the grammar describes: where text has been skipped up to the cursor,
it fills the group from the start of that text on. -/
def Sound (parsing : Parsing) (inner : GroupBody) : Prop :=
  ∀ frame candidates before pending ahead start closed,
    (∀ stop ∈ frame.stop, stop.FindsPrefixes) →
    (before ++ pending ++ ahead).byteLength = parsing.size →
    parsing.grammar.Skips parsing.options.originalStrings frame.stop candidates before start pending
      ahead →
    inner frame candidates pending (.between (before ++ pending) ahead) = .ok closed →
    ∃ children trailing closing rest, closed = .filled before children trailing closing rest ∧
      parsing.grammar.Fills parsing.options.originalStrings frame.stop candidates before start
        children trailing closing rest

/-- What a term takes with a sound body is what the description reads. -/
theorem Takes.reads (sound : parsing.Sound inner) {term : Term} {marker : Text} {node : Node}
    {after : Cursor} (startFaithful : term.start.FindsPrefixes)
    (stopFaithful : ∀ stop ∈ term.stop?, stop.FindsPrefixes)
    (whole : (before ++ ahead).byteLength = parsing.size)
    (found : term.start.match? ahead = some marker)
    (takes : parsing.Takes inner (.between before ahead) term marker node after) :
    ∃ rest, after = .between (before ++ node.text) rest ∧
      parsing.grammar.Reads parsing.options.originalStrings before ahead term node rest := by
  obtain ⟨inside, rfl⟩ := startFaithful.split found
  cases shape : term.body with
  | token =>
      simp only [Takes, shape] at takes
      obtain ⟨rfl, rfl⟩ := takes
      exact ⟨inside, by simp [Node.text], .token shape found⟩
  | group stop subgroups =>
      simp only [Takes, shape] at takes
      obtain ⟨closed, parsed, rfl, rfl⟩ := group_eq_ok_iff.1 takes
      rw [Cursor.advance_between, ← List.append_nil (before ++ marker)] at parsed
      obtain ⟨children, trailing, closing, rest, rfl, fills⟩ := sound _ _ _ _ _ inside _
        (fun other same => stopFaithful other (by simpa [Term.stop?, shape] using same))
        (by simpa using whole) .nothing parsed
      refine ⟨rest, ?_, ?_⟩
      · simp [Parsing.node, Closed.filled, Node.text]
      · rw [node_filled before marker fills.text_eq]
        exact .group shape found fills

/-- However deep it looks, the parser without backtracking gives only what the grammar
describes. -/
theorem body_sound (prefixes : parsing.grammar.FindsPrefixes)
    (noBacktrack : parsing.options.backtrack = false) (fuel : Nat) :
    parsing.Sound (parsing.body fuel) := by
  induction fuel with
  | zero =>
      intro frame candidates before pending ahead start closed _ _ _ done
      simp [body] at done
  | succ fuel sound =>
      -- With less fuel both the groups inside and the rest of this group are sound.
      intro frame candidates before pending ahead start closed stopsFaithful whole skips done
      cases body_succ_eq_ok_iff.1 done with
      | ends atEnd root =>
          have nothingLeft : ahead = [] := by
            simp only [Cursor.between_offset, Text.byteLength_append] at atEnd whole
            exact Text.byteLength_eq_zero.1 (by omega)
          subst nothingLeft
          rw [root] at skips ⊢
          exact ⟨[], pending, [], [], by simp [Closed.filled_nil], .ends skips⟩
      | @child term node after rest _ matched continues =>
          obtain ⟨first, marker, found, takes⟩ := (tryCandidates_eq_matched_iff noBacktrack).1 matched
          obtain ⟨startFaithful, stopFaithful⟩ := prefixes term first.mem_terms
          obtain ⟨behind, rfl, reads⟩ := takes.reads sound startFaithful stopFaithful whole found
          rw [← List.append_nil (before ++ pending ++ node.text)] at continues
          have wholeBehind : (before ++ pending ++ node.text ++ [] ++ behind).byteLength =
              parsing.size := by
            rw [← whole, reads.text_eq]
            simp
          obtain ⟨children, trailing, closing, last, rfl, fills⟩ :=
            sound _ _ _ _ _ behind _ stopsFaithful wholeBehind .nothing continues
          refine ⟨_, trailing, closing, last, ?_, .child skips first reads fills⟩
          rw [Closed.filled_child reads.bare]
          simp [Closed.filled]
      | closes _ unmatched stops ended =>
          have noneStarts := ((tryCandidates_eq_unmatched_iff noBacktrack).1 unmatched).2
          obtain ⟨rest, rfl⟩ := (stopsFaithful _ stops).split ended
          rw [stops] at skips ⊢
          exact ⟨[], pending, _, rest, by simp [Closed.filled_nil],
            .closes skips noneStarts ended⟩
      | skips _ unmatched stays skipping continues =>
          have noneStarts := ((tryCandidates_eq_unmatched_iff noBacktrack).1 unmatched).2
          obtain ⟨term, marker, node, named, found, takes, rfl⟩ := trySkip_eq_some_iff.1 skipping
          obtain ⟨id, _, numbered⟩ := Option.bind_eq_some_iff.1 named
          obtain ⟨startFaithful, stopFaithful⟩ :=
            prefixes term (Grammar.mem_terms_of_term? numbered)
          obtain ⟨behind, rfl, reads⟩ := takes.reads sound startFaithful stopFaithful whole found
          rw [List.append_assoc before] at continues
          refine sound _ _ _ _ _ start _ stopsFaithful ?_ (skips.more noneStarts stays named reads)
            continues
          rw [← whole, reads.text_eq]
          simp

theorem inText_of_ne_nil (whole : (before ++ ahead).byteLength = parsing.size)
    (nonempty : ahead ≠ []) : ¬parsing.size ≤ (Cursor.between before ahead).offset := by
  have positive : ahead.byteLength ≠ 0 := fun zero => nonempty (Text.byteLength_eq_zero.1 zero)
  simp only [Cursor.between_offset, Text.byteLength_append] at whole ⊢
  omega

mutual

/-- What the description reads, the term takes with fuel for the text ahead. -/
theorem takes_of_reads (noBacktrack : parsing.options.backtrack = false) {before ahead rest : Text}
    {term : Term} {node : Node} :
    parsing.grammar.Reads parsing.options.originalStrings before ahead term node rest →
    (before ++ ahead).byteLength = parsing.size → ∀ fuel, ahead.length ≤ fuel →
    ∃ marker, term.start.match? ahead = some marker ∧
      parsing.Takes (parsing.body fuel) (.between before ahead) term marker node
        (.between (before ++ node.text) rest)
  | .token shape found, _, _, _ => ⟨_, found, by simp [Takes, shape, Node.text]⟩
  | .group shape found fills, whole, fuel, enough => by
      have shorter := List.length_pos_iff.2 (Matcher.match?_ne_nil found)
      rw [List.length_append] at enough
      refine ⟨_, found, ?_⟩
      simp only [Takes, shape]
      refine group_eq_ok_iff.2 ⟨_, ?_, (node_filled _ _ fills.text_eq).symm, ?_⟩
      · rw [Cursor.advance_between]
        exact body_of_fills noBacktrack fills _ rfl (by simpa using whole) fuel (by omega)
      · simp [Closed.filled, Node.assembled, Node.text]

theorem body_of_skips (noBacktrack : parsing.options.backtrack = false) {stop : Option Matcher}
    {candidates : List TermId} {before start pending ahead : Text} :
    parsing.grammar.Skips parsing.options.originalStrings stop candidates before start pending
      ahead →
    ∀ frame : Frame, frame.stop = stop → (before ++ start).byteLength = parsing.size →
    ∀ closed,
    (∀ fuel, ahead.length < fuel → parsing.body fuel frame candidates pending
      (.between (before ++ pending) ahead) = .ok closed) →
    ∀ fuel, start.length < fuel → parsing.body fuel frame candidates []
      (.between before start) = .ok closed
  | .nothing, _, _, _, _, goesOn, fuel, enough => by simpa using goesOn fuel enough
  | .more prior noneStarts stays named reads, frame, same, whole, closed, goesOn, fuel, enough => by
      refine body_of_skips noBacktrack prior frame same whole closed ?_ fuel enough
      intro fuel enough
      obtain ⟨fuel, rfl⟩ := Nat.exists_eq_add_one_of_ne_zero (Nat.ne_zero_of_lt enough)
      have wholeHere := whole
      rw [prior.text_eq, ← List.append_assoc] at wholeHere
      obtain ⟨marker, found, takes⟩ := takes_of_reads noBacktrack reads wholeHere fuel (by omega)
      have shorter := reads.length_lt
      have behind := goesOn fuel (by omega)
      rw [← List.append_assoc] at behind
      rw [body_succ_eq_ok_iff]
      exact .skips (inText_of_ne_nil wholeHere reads.ne_nil)
        ((tryCandidates_eq_unmatched_iff noBacktrack).2 ⟨rfl, noneStarts⟩) (same ▸ stays)
        (trySkip_eq_some_iff.2 ⟨_, marker, _, named, found, takes, rfl⟩) behind

theorem body_of_fills (noBacktrack : parsing.options.backtrack = false) {stop : Option Matcher}
    {candidates : List TermId} {before ahead : Text} {children : List Node}
    {trailing closing rest : Text} :
    parsing.grammar.Fills parsing.options.originalStrings stop candidates before ahead children
      trailing closing rest →
    ∀ frame : Frame, frame.stop = stop → (before ++ ahead).byteLength = parsing.size →
    ∀ fuel, ahead.length < fuel → parsing.body fuel frame candidates [] (.between before ahead) =
      .ok (.filled before children trailing closing rest)
  | .child skips first reads fills, frame, same, whole, fuel, enough => by
      refine body_of_skips noBacktrack skips frame same whole _ ?_ fuel enough
      intro fuel enough
      obtain ⟨fuel, rfl⟩ := Nat.exists_eq_add_one_of_ne_zero (Nat.ne_zero_of_lt enough)
      rw [skips.text_eq, ← List.append_assoc] at whole
      have taken := takes_of_reads noBacktrack reads whole fuel (by omega)
      have shorter := reads.length_lt
      have wholeBehind := whole
      rw [reads.text_eq, ← List.append_assoc] at wholeBehind
      have rest := body_of_fills noBacktrack fills frame same wholeBehind fuel (by omega)
      rw [body_succ_eq_ok_iff, Closed.filled_child reads.bare]
      exact .child (inText_of_ne_nil whole reads.ne_nil)
        ((tryCandidates_eq_matched_iff noBacktrack).2 ⟨first, taken⟩) rest
  | .closes skips noneStarts ends, frame, same, whole, fuel, enough => by
      refine body_of_skips noBacktrack skips frame same whole _ ?_ fuel enough
      intro fuel enough
      obtain ⟨fuel, rfl⟩ := Nat.exists_eq_add_one_of_ne_zero (Nat.ne_zero_of_lt enough)
      rw [skips.text_eq, ← List.append_assoc] at whole
      have nonempty := Matcher.match?_ne_nil ends
      rw [body_succ_eq_ok_iff, Closed.filled_nil,
        ← Cursor.advance_between (before ++ trailing) closing rest]
      exact .closes (inText_of_ne_nil whole (by simp [nonempty]))
        ((tryCandidates_eq_unmatched_iff noBacktrack).2 ⟨rfl, noneStarts⟩) same ends
  | .ends skips, frame, root, whole, fuel, enough => by
      refine body_of_skips noBacktrack skips frame root whole _ ?_ fuel enough
      intro fuel enough
      obtain ⟨fuel, rfl⟩ := Nat.exists_eq_add_one_of_ne_zero (Nat.ne_zero_of_lt enough)
      rw [skips.text_eq, List.append_nil] at whole
      rw [body_succ_eq_ok_iff, Closed.filled_nil, List.append_nil]
      exact .ends (by rw [← whole]; exact Nat.le_refl _) root

end

end Parsing

namespace Grammar

variable {grammar : Grammar} {options : ParseOptions} {text : Text}

theorem node_filled_root {children : List Node} {trailing : Text}
    (fills : grammar.Fills options.originalStrings none grammar.root [] text children trailing [] []) :
    Parsing.node ⟨grammar, options, text, text.byteLength⟩
        ⟨grammar.rootName, [], .between [] text, none⟩ (.filled [] children trailing [] []) =
      .assembled options.originalStrings grammar.rootName [] [] children trailing [] :=
  Parsing.node_filled [] [] fills.text_eq

/-- What is parsed without backtracking is what the grammar describes. -/
theorem describes_of_parse (prefixes : grammar.FindsPrefixes)
    (noBacktrack : options.backtrack = false) {tree : Node}
    (parsed : grammar.parse options text = .ok tree) : grammar.Describes options text tree := by
  obtain ⟨closed, done, rfl⟩ := parse_eq_ok_iff_body.1 parsed
  obtain ⟨children, trailing, closing, rest, rfl, fills⟩ := Parsing.body_sound prefixes
    noBacktrack _ _ _ [] [] text text closed (by simp) (by simp) .nothing done
  obtain ⟨rfl, rfl⟩ := fills.root_eq
  exact ⟨children, trailing, fills, node_filled_root fills⟩

/-- What the grammar describes is parsed without backtracking. -/
theorem Describes.parse (noBacktrack : options.backtrack = false) {tree : Node}
    (described : grammar.Describes options text tree) : grammar.parse options text = .ok tree := by
  obtain ⟨children, trailing, fills, rfl⟩ := described
  have enough : text.length < text.byteLength + 1 := Nat.lt_succ_of_le text.length_le_byteLength
  exact parse_eq_ok_iff_body.2 ⟨_, Parsing.body_of_fills noBacktrack fills _ rfl rfl _ enough,
    (node_filled_root fills).symm⟩

/-- Without backtracking, a grammar whose markers find only what stands at the cursor parses a text
into a tree if and only if it describes that tree of the text, and it describes at most one. -/
theorem parse_eq_ok_iff_describes (prefixes : grammar.FindsPrefixes)
    (noBacktrack : options.backtrack = false) :
    (∀ tree, grammar.parse options text = .ok tree ↔ grammar.Describes options text tree) ∧
    ∀ tree other, grammar.Describes options text tree → grammar.Describes options text other →
      tree = other := by
  refine ⟨fun tree => ⟨describes_of_parse prefixes noBacktrack, (·.parse noBacktrack)⟩, ?_⟩
  intro tree other described otherDescribed
  have same := (described.parse noBacktrack).symm.trans (otherDescribed.parse noBacktrack)
  exact Except.ok.inj same

end Grammar

theorem Arithmetic.parse_describes_call :
    grammar.FindsPrefixes ∧ ParseOptions.plain.backtrack = false ∧
    (∃ tree, grammar.parse .plain "f( 'é', a[ 0 ] )".toList = .ok tree ∧
      grammar.Describes .plain "f( 'é', a[ 0 ] )".toList tree ∧
      ∀ other, grammar.Describes .plain "f( 'é', a[ 0 ] )".toList other → tree = other) ∧
    ∀ tree, ¬grammar.Describes .plain "f( a[ 0 )".toList tree := by
  have prefixes : grammar.FindsPrefixes := Grammar.findsPrefixes_of_isAnchored (by decide +kernel)
  have noBacktrack : ParseOptions.plain.backtrack = false := rfl
  have succeeds : (grammar.parse .plain "f( 'é', a[ 0 ] )".toList).isOk = true := by
    decide +kernel
  have fails : (grammar.parse .plain "f( a[ 0 )".toList).isOk = false := by decide +kernel
  refine ⟨prefixes, noBacktrack, ?_, ?_⟩
  · cases parsed : grammar.parse .plain "f( 'é', a[ 0 ] )".toList with
    | error error =>
        rw [parsed] at succeeds
        cases succeeds
    | ok tree =>
        obtain ⟨agrees, unique⟩ := Grammar.parse_eq_ok_iff_describes prefixes noBacktrack
        have described := (agrees tree).1 parsed
        exact ⟨tree, rfl, described, fun other => unique tree other described⟩
  · intro tree described
    have parsed := ((Grammar.parse_eq_ok_iff_describes prefixes noBacktrack).1 tree).2 described
    rw [parsed] at fails
    cases fails

end Parlance
