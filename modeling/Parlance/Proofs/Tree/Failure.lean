import Parlance.Proofs.Tree.Acceptance
import Parlance.Proofs.Tree.RoundTrip

/-!
# Where the parser fails

Without backtracking, the first failure ends the parse. Its error names a point that the parser has
reached: everything before it is taken by terms, as nodes that are complete or as the start markers
of the groups that are open there. A syntax error means that nothing can go on at that point, and an
unterminated group that the text ends in it.
-/

namespace Parlance

/-- A group whose end has not been found: its name, its start marker with the text before that, and
its end marker. -/
structure OpenGroup where
  name : String
  before : Text
  marker : Text
  stop : Matcher

namespace Grammar

/-- The term goes on from a point inside a group that ends with the marker `stop`, if it ends with
one. It is the first candidate to start there, or the term between tokens where no candidate starts
and the group does not end. -/
inductive GoesOn (grammar : Grammar) (stop : Option Matcher) (candidates : List TermId)
    (ahead : Text) : Term → Prop where
  | candidate {term} (first : grammar.FirstToStart candidates ahead term) :
      GoesOn grammar stop candidates ahead term
  | between {term} (noneStarts : grammar.NoneStarts candidates ahead)
      (stays : ∀ marker ∈ stop, marker.match? ahead = none)
      (named : grammar.aether.bind grammar.term? = some term) :
      GoesOn grammar stop candidates ahead term

/-- The end marker of the innermost of the groups. -/
def stopOf? (groups : List OpenGroup) : Option Matcher := groups.head?.map OpenGroup.stop

/-- The text is read up to a point where these groups are open, the innermost first, and these are
the candidates. -/
inductive Stands (grammar : Grammar) (keeps : Bool) (text : Text) :
    (groups : List OpenGroup) → (candidates : List TermId) → (before ahead : Text) → Prop where
  | start : Stands grammar keeps text [] grammar.root [] text
  | child {groups candidates before ahead term node rest}
      (stands : Stands grammar keeps text groups candidates before ahead)
      (first : grammar.FirstToStart candidates ahead term)
      (reads : grammar.Reads keeps before ahead term node rest) :
      Stands grammar keeps text groups (term.candidatesAfter candidates) (before ++ node.text) rest
  | skip {groups candidates before ahead term node rest}
      (stands : Stands grammar keeps text groups candidates before ahead)
      (noneStarts : grammar.NoneStarts candidates ahead)
      (stays : ∀ marker ∈ stopOf? groups, marker.match? ahead = none)
      (named : grammar.aether.bind grammar.term? = some term)
      (reads : grammar.Reads keeps before ahead term node rest) :
      Stands grammar keeps text groups candidates (before ++ node.text) rest
  | enter {groups candidates before inside term marker stop subgroups}
      (stands : Stands grammar keeps text groups candidates before (marker ++ inside))
      (goesOn : grammar.GoesOn (stopOf? groups) candidates (marker ++ inside) term)
      (shape : term.body = .group stop subgroups)
      (found : term.start.match? (marker ++ inside) = some marker) :
      Stands grammar keeps text (⟨term.name, before, marker, stop⟩ :: groups) subgroups
        (before ++ marker) inside

/-- Nothing goes on: there is text ahead, and no candidate starts with it, nor does the innermost
group end with it, nor may any of it be skipped. -/
structure Stuck (grammar : Grammar) (groups : List OpenGroup) (candidates : List TermId)
    (ahead : Text) : Prop where
  inText : ahead ≠ []
  noneStarts : grammar.NoneStarts candidates ahead
  stays : ∀ group ∈ groups.head?, group.stop.match? ahead = none
  noneBetween : ∀ id ∈ grammar.aether, ∀ term ∈ grammar.term? id, term.start.match? ahead = none

/-- The error of a parse of the text points at its cause. -/
inductive FailsAt (grammar : Grammar) (keeps : Bool) (text : Text) : ParseError → Prop where
  | stuck {groups candidates before ahead}
      (stands : grammar.Stands keeps text groups candidates before ahead)
      (stuck : grammar.Stuck groups candidates ahead) :
      FailsAt grammar keeps text (.syntaxError before.byteLength
        (before.takeLast 12 ++ "<<here>>".toList ++ ahead.take 12))
  | unclosed {group outer candidates}
      (stands : grammar.Stands keeps text (group :: outer) candidates text []) :
      FailsAt grammar keeps text
        (.unterminated group.name group.marker group.before.byteLength)

variable {grammar : Grammar} {keeps : Bool} {text before ahead : Text} {groups : List OpenGroup}
  {candidates : List TermId}

/-- What has been read and what lies ahead make up the text. -/
theorem Stands.text_eq (stands : grammar.Stands keeps text groups candidates before ahead) :
    text = before ++ ahead := by
  induction stands with
  | start => rfl
  | child _ _ reads ih => rw [ih, reads.text_eq, List.append_assoc]
  | skip _ _ _ _ reads ih => rw [ih, reads.text_eq, List.append_assoc]
  | enter _ _ _ _ ih => rw [ih, List.append_assoc]

/-- The start marker of every open group stands in the text, behind the text before it. -/
theorem Stands.opened (stands : grammar.Stands keeps text groups candidates before ahead) :
    ∀ group ∈ groups, ∃ inside, text = group.before ++ group.marker ++ inside := by
  induction stands with
  | start => simp
  | child _ _ _ ih => exact ih
  | skip _ _ _ _ _ ih => exact ih
  | @enter groups _ before inside term marker stop _ stands _ _ _ ih =>
      intro group member
      rcases List.mem_cons.1 member with rfl | member
      · exact ⟨inside, by rw [stands.text_eq, List.append_assoc]⟩
      · exact ih group member

end Grammar

namespace Parsing

variable {parsing : Parsing} {inner : GroupBody} {frame : Frame} {candidates : List TermId}
  {pending before ahead : Text} {cursor : Cursor} {error : ParseError}

theorem group_eq_error_iff {name : String} {marker : Text} {stop : Matcher}
    {subgroups : List TermId} :
    parsing.group inner name marker stop subgroups cursor = .error error ↔
      inner ⟨name, marker, cursor, some stop⟩ subgroups [] (cursor.advance marker) =
        .error error := by
  rw [group]
  cases inner ⟨name, marker, cursor, some stop⟩ subgroups [] (cursor.advance marker) with
  | error other => simp [bind, Except.bind]
  | ok closed => simp [bind, Except.bind, pure, Except.pure]

/-- The term opens a group with its start marker at the cursor, and the parse of the group fails. -/
def Breaks (parsing : Parsing) (inner : GroupBody) (cursor : Cursor) (term : Term) (marker : Text)
    (error : ParseError) : Prop :=
  match term.body with
  | .token => False
  | .group stop subgroups =>
      parsing.group inner term.name marker stop subgroups cursor = .error error

/-- Without backtracking, the attempt fails exactly if the first candidate to start does. -/
theorem tryCandidates_eq_error_iff (noBacktrack : parsing.options.backtrack = false)
    {given : Option ParseError} :
    parsing.tryCandidates inner (.between before ahead) candidates given = .error error ↔
      ∃ term, parsing.grammar.FirstToStart candidates ahead term ∧
        ∃ marker, term.start.match? ahead = some marker ∧
          parsing.Breaks inner (.between before ahead) term marker error := by
  induction candidates with
  | nil => simp [tryCandidates, Grammar.not_firstToStart_nil]
  | cons id ids ih =>
      rcases idle_or_starts parsing.grammar id ahead with idle | ⟨head, marker, named, found⟩
      · rw [tryCandidates_cons_of_idle idle, ih]
        simp only [Grammar.firstToStart_cons_of_not_starts idle]
      · have starts : head.start.match? ahead ≠ none := by simp [found]
        simp only [Grammar.firstToStart_cons_of_starts named starts, exists_eq_left]
        rw [tryCandidates]
        cases shape : head.body with
        | token => simp [named, found, shape, Breaks]
        | group stop subgroups =>
            cases grouped : parsing.group inner head.name marker stop subgroups
                (.between before ahead) with
            | error other => simp [named, found, shape, Breaks, grouped, noBacktrack]
            | ok read => simp [named, found, shape, Breaks, grouped]

/-- Without backtracking, skipping fails exactly if the term between tokens does. -/
theorem trySkip_eq_error_iff (noBacktrack : parsing.options.backtrack = false) :
    parsing.trySkip inner cursor = .error error ↔
      ∃ term, parsing.grammar.aether.bind parsing.grammar.term? = some term ∧
        ∃ marker, term.start.matchAt? cursor = some marker ∧
          parsing.Breaks inner cursor term marker error := by
  rw [trySkip]
  cases named : parsing.grammar.aether.bind parsing.grammar.term? with
  | none => simp
  | some term =>
      cases found : term.start.matchAt? cursor with
      | none => simp [found]
      | some marker =>
          cases shape : term.body with
          | token => simp [found, shape, Breaks]
          | group stop subgroups =>
              cases grouped : parsing.group inner term.name marker stop subgroups cursor with
              | error other => simp [found, shape, Breaks, grouped, noBacktrack]
              | ok read => simp [found, shape, Breaks, grouped]

/-- Without backtracking, nothing is skipped exactly where the term between tokens does not
start. -/
theorem trySkip_eq_none_iff (noBacktrack : parsing.options.backtrack = false) :
    parsing.trySkip inner cursor = .ok none ↔
      ∀ term, parsing.grammar.aether.bind parsing.grammar.term? = some term →
        term.start.matchAt? cursor = none := by
  rw [trySkip]
  cases named : parsing.grammar.aether.bind parsing.grammar.term? with
  | none => simp
  | some term =>
      cases found : term.start.matchAt? cursor with
      | none => simp [found]
      | some marker =>
          cases shape : term.body with
          | token => simp [found, shape]
          | group stop subgroups =>
              cases grouped : parsing.group inner term.name marker stop subgroups cursor with
              | error other => simp [found, shape, grouped, noBacktrack]
              | ok read => simp [found, shape, grouped]

/-- One round inside a group that fails: at the end of the text, in a candidate, behind a child, in
what is skipped, behind that, or because nothing goes on. -/
inductive Failure (parsing : Parsing) (inner : GroupBody) (frame : Frame)
    (candidates : List TermId) (pending : Text) (cursor : Cursor) : ParseError → Prop where
  | unclosed {stop} (atEnd : parsing.size ≤ cursor.offset) (stops : frame.stop = some stop) :
      Failure parsing inner frame candidates pending cursor
        (.unterminated frame.name frame.marker frame.opened.offset)
  | inCandidate {fault} (inText : ¬parsing.size ≤ cursor.offset)
      (tried : parsing.tryCandidates inner cursor candidates none = .error fault) :
      Failure parsing inner frame candidates pending cursor fault
  | behindChild {term node after fault} (inText : ¬parsing.size ≤ cursor.offset)
      (matched : parsing.tryCandidates inner cursor candidates none =
        .ok (.matched term node after))
      (continues : inner frame (term.candidatesAfter candidates) [] after = .error fault) :
      Failure parsing inner frame candidates pending cursor fault
  | inSkipped {rejected fault} (inText : ¬parsing.size ≤ cursor.offset)
      (unmatched : parsing.tryCandidates inner cursor candidates none = .ok (.unmatched rejected))
      (stays : ∀ stop ∈ frame.stop, stop.matchAt? cursor = none)
      (skipping : parsing.trySkip inner cursor = .error fault) :
      Failure parsing inner frame candidates pending cursor fault
  | behindSkipped {rejected skipped after fault} (inText : ¬parsing.size ≤ cursor.offset)
      (unmatched : parsing.tryCandidates inner cursor candidates none = .ok (.unmatched rejected))
      (stays : ∀ stop ∈ frame.stop, stop.matchAt? cursor = none)
      (skipping : parsing.trySkip inner cursor = .ok (some (skipped, after)))
      (continues : inner frame candidates (pending ++ skipped) after = .error fault) :
      Failure parsing inner frame candidates pending cursor fault
  | stuck {rejected} (inText : ¬parsing.size ≤ cursor.offset)
      (unmatched : parsing.tryCandidates inner cursor candidates none = .ok (.unmatched rejected))
      (stays : ∀ stop ∈ frame.stop, stop.matchAt? cursor = none)
      (skipping : parsing.trySkip inner cursor = .ok none) :
      Failure parsing inner frame candidates pending cursor
        (rejected.getD (parsing.errorAt cursor))

/-- A body that fails goes one of these rounds, and each of them makes it fail. -/
theorem body_succ_eq_error_iff {fuel : Nat} :
    parsing.body (fuel + 1) frame candidates pending cursor = .error error ↔
      Failure parsing (parsing.body fuel) frame candidates pending cursor error := by
  constructor
  · intro failed
    rw [body] at failed
    by_cases atEnd : parsing.size ≤ cursor.offset
    · rw [if_pos atEnd] at failed
      cases stops : frame.stop with
      | none => simp [stops] at failed
      | some stop =>
          simp only [stops, Except.error.injEq] at failed
          subst failed
          exact .unclosed atEnd stops
    · rw [if_neg atEnd] at failed
      cases tried : parsing.tryCandidates (parsing.body fuel) cursor candidates none with
      | error other =>
          simp only [tried, bind, Except.bind, Except.error.injEq] at failed
          subst failed
          exact .inCandidate atEnd tried
      | ok attempt =>
          cases attempt with
          | matched term node after =>
              simp only [tried, bind, Except.bind] at failed
              cases rest : parsing.body fuel frame (term.candidatesAfter candidates) [] after with
              | error other =>
                  simp only [rest, Except.error.injEq] at failed
                  subst failed
                  exact .behindChild atEnd tried rest
              | ok closed => simp [rest, pure, Except.pure] at failed
          | unmatched rejected =>
              simp only [tried, bind, Except.bind] at failed
              cases ended : frame.stop.bind (·.matchAt? cursor) with
              | some marker => simp [ended, pure, Except.pure] at failed
              | none =>
                  have stays := bind_matchAt?_eq_none.1 ended
                  simp only [ended] at failed
                  cases skipping : parsing.trySkip (parsing.body fuel) cursor with
                  | error other =>
                      simp only [skipping, Except.error.injEq] at failed
                      subst failed
                      exact .inSkipped atEnd tried stays skipping
                  | ok skip =>
                      cases skip with
                      | some skip =>
                          simp only [skipping] at failed
                          exact .behindSkipped atEnd tried stays skipping failed
                      | none =>
                          have same : rejected.getD (parsing.errorAt cursor) = error := by
                            cases rejected <;>
                              simpa [skipping, throw, throwThe, MonadExceptOf.throw] using failed
                          rw [← same]
                          exact .stuck atEnd tried stays skipping
  · intro failure
    rw [body]
    cases failure with
    | unclosed atEnd stops => simp [atEnd, stops]
    | inCandidate inText tried => simp [inText, tried, bind, Except.bind]
    | behindChild inText matched continues =>
        simp [inText, matched, continues, bind, Except.bind]
    | inSkipped inText unmatched stays skipping =>
        simp [inText, unmatched, bind_matchAt?_eq_none.2 stays, skipping, bind, Except.bind]
    | behindSkipped inText unmatched stays skipping continues =>
        simp [inText, unmatched, bind_matchAt?_eq_none.2 stays, skipping, continues, bind,
          Except.bind]
    | @stuck rejected inText unmatched stays skipping =>
        cases rejected <;>
          simp [inText, unmatched, bind_matchAt?_eq_none.2 stays, skipping, bind, Except.bind,
            throw, throwThe, MonadExceptOf.throw]

/-- The error where nothing goes on. -/
theorem errorAt_between (text : parsing.input = before ++ ahead) :
    parsing.errorAt (.between before ahead) = .syntaxError before.byteLength
      (before.takeLast 12 ++ "<<here>>".toList ++ ahead.take 12) := by
  rw [errorAt, text, Cursor.between_offset, Cursor.between_ahead, Text.takeBytes?_append]
  rfl

/-- The frame is that of the innermost group, or that of the root if none is open. -/
inductive Fits : Frame → List OpenGroup → Prop where
  | root {name marker opened} : Fits ⟨name, marker, opened, none⟩ []
  | innermost {group outer opened} (placed : opened.offset = group.before.byteLength) :
      Fits ⟨group.name, group.marker, opened, some group.stop⟩ (group :: outer)

theorem Fits.stop_eq {groups : List OpenGroup} (fits : Fits frame groups) :
    frame.stop = Grammar.stopOf? groups := by
  cases fits <;> rfl

/-- The body fails at the cause of its error, wherever the parser can have come with enough fuel. -/
def FailsSoundly (parsing : Parsing) (fuel : Nat) : Prop :=
  ∀ frame groups candidates pending before ahead error, Fits frame groups →
    parsing.grammar.Stands parsing.options.originalStrings parsing.input groups candidates before
      ahead →
    ahead.length < fuel →
    parsing.body fuel frame candidates pending (.between before ahead) = .error error →
    parsing.grammar.FailsAt parsing.options.originalStrings parsing.input error

/-- A group that fails inside has been entered before. -/
theorem FailsSoundly.inside {fuel : Nat} (sound : parsing.FailsSoundly fuel)
    {groups : List OpenGroup} {term : Term} {marker : Text}
    (stands : parsing.grammar.Stands parsing.options.originalStrings parsing.input groups candidates
      before ahead)
    (enough : ahead.length < fuel + 1)
    (goesOn : parsing.grammar.GoesOn (Grammar.stopOf? groups) candidates ahead term)
    (startFaithful : term.start.FindsPrefixes) (found : term.start.match? ahead = some marker)
    (breaks : parsing.Breaks (parsing.body fuel) (.between before ahead) term marker error) :
    parsing.grammar.FailsAt parsing.options.originalStrings parsing.input error := by
  obtain ⟨inside, rfl⟩ := startFaithful.split found
  cases shape : term.body with
  | token => simp [Breaks, shape] at breaks
  | group stop subgroups =>
      simp only [Breaks, shape] at breaks
      have failed := group_eq_error_iff.1 breaks
      rw [Cursor.advance_between] at failed
      have shorter := List.length_pos_iff.2 (Matcher.match?_ne_nil found)
      rw [List.length_append] at enough
      have entered := stands.enter goesOn shape found
      exact sound _ _ _ _ _ inside error (.innermost rfl) entered (by omega) failed

/-- However deep it looks, the parser without backtracking fails only for cause. -/
theorem body_failsSoundly (prefixes : parsing.grammar.FindsPrefixes)
    (noBacktrack : parsing.options.backtrack = false)
    (sized : parsing.size = parsing.input.byteLength) (fuel : Nat) :
    parsing.FailsSoundly fuel := by
  induction fuel with
  | zero => exact fun _ _ _ _ _ _ _ _ _ enough => absurd enough (Nat.not_lt_zero _)
  | succ fuel sound =>
      intro frame groups candidates pending before ahead error fits stands enough failed
      have whole : (before ++ ahead).byteLength = parsing.size := by
        rw [sized, stands.text_eq]
      -- Both a child and what is skipped are read, so that the rest of the group is shorter.
      have reads {term : Term} {marker : Text} {node : Node} {after : Cursor}
          (member : term ∈ parsing.grammar.terms) (found : term.start.match? ahead = some marker)
          (takes : parsing.Takes (parsing.body fuel) (.between before ahead) term marker node
            after) :=
        takes.reads (body_sound prefixes noBacktrack fuel) (prefixes term member).1
          (prefixes term member).2 whole found
      have aether {term : Term}
          (named : parsing.grammar.aether.bind parsing.grammar.term? = some term) :
          term ∈ parsing.grammar.terms := by
        obtain ⟨id, _, numbered⟩ := Option.bind_eq_some_iff.1 named
        exact Grammar.mem_terms_of_term? numbered
      cases body_succ_eq_error_iff.1 failed with
      | unclosed atEnd stops =>
          have nothingLeft : ahead = [] := by
            simp only [Cursor.between_offset] at atEnd
            rw [Text.byteLength_append] at whole
            exact Text.byteLength_eq_zero.1 (by omega)
          have atEnd : before = parsing.input := by
            rw [stands.text_eq, nothingLeft, List.append_nil]
          rw [atEnd, nothingLeft] at stands
          cases fits with
          | root => cases stops
          | innermost placed =>
              rw [placed]
              exact .unclosed stands
      | inCandidate _ tried =>
          obtain ⟨term, first, marker, found, breaks⟩ :=
            (tryCandidates_eq_error_iff noBacktrack).1 tried
          exact sound.inside stands enough (.candidate first)
            (prefixes term first.mem_terms).1 found breaks
      | behindChild _ matched continues =>
          obtain ⟨first, marker, found, takes⟩ :=
            (tryCandidates_eq_matched_iff noBacktrack).1 matched
          obtain ⟨rest, rfl, reads⟩ := reads first.mem_terms found takes
          have shorter := reads.length_lt
          exact sound _ _ _ _ _ rest error fits (.child stands first reads) (by omega) continues
      | inSkipped _ unmatched stays skipping =>
          have noneStarts := ((tryCandidates_eq_unmatched_iff noBacktrack).1 unmatched).2
          obtain ⟨term, named, marker, found, breaks⟩ :=
            (trySkip_eq_error_iff noBacktrack).1 skipping
          rw [fits.stop_eq] at stays
          exact sound.inside stands enough (.between noneStarts stays named)
            (prefixes term (aether named)).1 found breaks
      | behindSkipped _ unmatched stays skipping continues =>
          have noneStarts := ((tryCandidates_eq_unmatched_iff noBacktrack).1 unmatched).2
          obtain ⟨term, marker, node, named, found, takes, rfl⟩ := trySkip_eq_some_iff.1 skipping
          obtain ⟨rest, rfl, reads⟩ := reads (aether named) found takes
          have shorter := reads.length_lt
          rw [fits.stop_eq] at stays
          exact sound _ _ _ _ _ rest error fits (.skip stands noneStarts stays named reads)
            (by omega) continues
      | stuck inText unmatched stays skipping =>
          obtain ⟨rfl, noneStarts⟩ := (tryCandidates_eq_unmatched_iff noBacktrack).1 unmatched
          have noneBetween := (trySkip_eq_none_iff noBacktrack).1 skipping
          rw [Option.getD_none, errorAt_between stands.text_eq]
          refine .stuck stands ⟨?_, noneStarts, ?_, ?_⟩
          · rintro rfl
            rw [List.append_nil] at whole
            exact inText (Nat.le_of_eq whole.symm)
          · intro group innermost
            refine stays group.stop ?_
            rw [fits.stop_eq, Grammar.stopOf?, innermost]
            rfl
          · intro id isAether term named
            exact noneBetween term (Option.bind_eq_some_iff.2 ⟨id, isAether, named⟩)

/-- What is left of the innermost group is parsed with this error, in any frame for it and with
enough fuel. -/
def FailsFrom (parsing : Parsing) (error : ParseError) (groups : List OpenGroup)
    (candidates : List TermId) (before ahead : Text) : Prop :=
  ∀ frame pending fuel, Fits frame groups → ahead.length < fuel →
    parsing.body fuel frame candidates pending (.between before ahead) = .error error

/-- What fails from a point that the parser comes to fails from the start. -/
theorem FailsFrom.fromStart (noBacktrack : parsing.options.backtrack = false)
    (sized : parsing.size = parsing.input.byteLength) {groups : List OpenGroup}
    (fails : parsing.FailsFrom error groups candidates before ahead)
    (stands : parsing.grammar.Stands parsing.options.originalStrings parsing.input groups candidates
      before ahead) :
    parsing.FailsFrom error [] parsing.grammar.root [] parsing.input := by
  -- Backwards along the way to the point, each round fails because the one behind it does.
  induction stands with
  | start => exact fails
  | @child groups candidates before ahead term node rest stands first reads ih =>
      refine ih fun frame pending fuel fits enough => ?_
      obtain ⟨fuel, rfl⟩ := Nat.exists_eq_add_one_of_ne_zero (Nat.ne_zero_of_lt enough)
      have whole : (before ++ ahead).byteLength = parsing.size := by rw [sized, stands.text_eq]
      have taken := takes_of_reads noBacktrack reads whole fuel (by omega)
      have shorter := reads.length_lt
      exact body_succ_eq_error_iff.2 (.behindChild (inText_of_ne_nil whole reads.ne_nil)
        ((tryCandidates_eq_matched_iff noBacktrack).2 ⟨first, taken⟩)
        (fails frame [] fuel fits (by omega)))
  | @skip groups candidates before ahead term node rest stands noneStarts stays named reads ih =>
      refine ih fun frame pending fuel fits enough => ?_
      obtain ⟨fuel, rfl⟩ := Nat.exists_eq_add_one_of_ne_zero (Nat.ne_zero_of_lt enough)
      have whole : (before ++ ahead).byteLength = parsing.size := by rw [sized, stands.text_eq]
      obtain ⟨marker, found, takes⟩ := takes_of_reads noBacktrack reads whole fuel (by omega)
      have shorter := reads.length_lt
      exact body_succ_eq_error_iff.2 (.behindSkipped (inText_of_ne_nil whole reads.ne_nil)
        ((tryCandidates_eq_unmatched_iff noBacktrack).2 ⟨rfl, noneStarts⟩) (fits.stop_eq ▸ stays)
        (trySkip_eq_some_iff.2 ⟨term, marker, node, named, found, takes, rfl⟩)
        (fails frame (pending ++ node.text) fuel fits (by omega)))
  | @enter groups candidates before inside term marker stop subgroups stands goesOn shape found
      ih =>
      refine ih fun frame pending fuel fits enough => ?_
      obtain ⟨fuel, rfl⟩ := Nat.exists_eq_add_one_of_ne_zero (Nat.ne_zero_of_lt enough)
      have whole : (before ++ (marker ++ inside)).byteLength = parsing.size := by
        rw [sized, stands.text_eq]
      have nonempty := Matcher.match?_ne_nil found
      have inText := inText_of_ne_nil whole (List.append_ne_nil_of_left_ne_nil nonempty inside)
      have shorter := List.length_pos_iff.2 nonempty
      rw [List.length_append] at enough
      have breaks : parsing.Breaks (parsing.body fuel) (.between before (marker ++ inside)) term
          marker error := by
        simp only [Breaks, shape]
        rw [group_eq_error_iff, Cursor.advance_between]
        have fitsInside := @Fits.innermost ⟨term.name, before, marker, stop⟩ groups
          (.between before (marker ++ inside)) rfl
        exact fails _ [] fuel fitsInside (by omega)
      cases goesOn with
      | candidate first =>
          exact body_succ_eq_error_iff.2 (.inCandidate inText
            ((tryCandidates_eq_error_iff noBacktrack).2 ⟨term, first, marker, found, breaks⟩))
      | between noneStarts stays named =>
          exact body_succ_eq_error_iff.2 (.inSkipped inText
            ((tryCandidates_eq_unmatched_iff noBacktrack).2 ⟨rfl, noneStarts⟩)
            (fits.stop_eq ▸ stays)
            ((trySkip_eq_error_iff noBacktrack).2 ⟨term, named, marker, found, breaks⟩))

/-- Every cause makes the parse of the root fail with its error. -/
theorem failsFrom_of_failsAt (noBacktrack : parsing.options.backtrack = false)
    (sized : parsing.size = parsing.input.byteLength)
    (failsAt : parsing.grammar.FailsAt parsing.options.originalStrings parsing.input error) :
    parsing.FailsFrom error [] parsing.grammar.root [] parsing.input := by
  cases failsAt with
  | @stuck groups candidates before ahead stands stuck =>
      refine FailsFrom.fromStart noBacktrack sized ?_ stands
      intro frame pending fuel fits enough
      obtain ⟨fuel, rfl⟩ := Nat.exists_eq_add_one_of_ne_zero (Nat.ne_zero_of_lt enough)
      have whole : (before ++ ahead).byteLength = parsing.size := by rw [sized, stands.text_eq]
      rw [body_succ_eq_error_iff, ← errorAt_between stands.text_eq,
        ← Option.getD_none (a := parsing.errorAt (.between before ahead))]
      refine .stuck (inText_of_ne_nil whole stuck.inText)
        ((tryCandidates_eq_unmatched_iff noBacktrack).2 ⟨rfl, stuck.noneStarts⟩) ?_
        ((trySkip_eq_none_iff noBacktrack).2 ?_)
      · rw [fits.stop_eq]
        intro stop isStop
        obtain ⟨group, innermost, rfl⟩ := Option.map_eq_some_iff.1 isStop
        exact stuck.stays group innermost
      · intro term named
        obtain ⟨id, isAether, numbered⟩ := Option.bind_eq_some_iff.1 named
        exact stuck.noneBetween id isAether term numbered
  | @unclosed group outer candidates stands =>
      refine FailsFrom.fromStart noBacktrack sized ?_ stands
      intro frame pending fuel fits enough
      obtain ⟨fuel, rfl⟩ := Nat.exists_eq_add_one_of_ne_zero (Nat.ne_zero_of_lt enough)
      rw [body_succ_eq_error_iff]
      cases fits with
      | innermost placed =>
          rw [← placed]
          exact .unclosed (Nat.le_of_eq sized) rfl

end Parsing

namespace Grammar

variable {grammar : Grammar} {options : ParseOptions} {text : Text}

theorem parse_eq_error_iff_body {error : ParseError} :
    grammar.parse options text = .error error ↔
      Parsing.body ⟨grammar, options, text, text.byteLength⟩ (text.byteLength + 1)
        ⟨grammar.rootName, [], .between [] text, none⟩ grammar.root [] (.between [] text) =
          .error error := by
  rw [parse, Parsing.run, show Cursor.start text = .between [] text from rfl]
  cases Parsing.body ⟨grammar, options, text, text.byteLength⟩ (text.byteLength + 1)
      ⟨grammar.rootName, [], .between [] text, none⟩ grammar.root [] (.between [] text) with
  | ok closed => simp [bind, Except.bind, pure, Except.pure]
  | error other => simp [bind, Except.bind]

/-- Without backtracking, the parse fails with an error exactly if that points at a cause. -/
theorem parse_eq_error_iff_failsAt (prefixes : grammar.FindsPrefixes)
    (noBacktrack : options.backtrack = false) {error : ParseError} :
    grammar.parse options text = .error error ↔
      grammar.FailsAt options.originalStrings text error := by
  have enough : text.length < text.byteLength + 1 := Nat.lt_succ_of_le text.length_le_byteLength
  rw [parse_eq_error_iff_body]
  constructor
  · intro failed
    have sound : Parsing.FailsSoundly ⟨grammar, options, text, text.byteLength⟩
        (text.byteLength + 1) := Parsing.body_failsSoundly prefixes noBacktrack rfl _
    exact sound _ [] _ _ _ _ _ .root .start enough failed
  · intro failsAt
    have fails : Parsing.FailsFrom ⟨grammar, options, text, text.byteLength⟩ error []
        grammar.root [] text := Parsing.failsFrom_of_failsAt noBacktrack rfl failsAt
    exact fails _ [] _ .root enough

/-- An error of a parse without backtracking points at its cause. A syntax error names the offset
inside the text, between two characters, up to which everything has been read, and where no
candidate, no end marker and no term between tokens goes on; it shows the characters around that
offset. Where a group is unterminated, the whole text has been read while groups were open, and the
error names the innermost one and its start marker, which stands at the offset. -/
theorem parse_fails_for_cause (prefixes : grammar.FindsPrefixes)
    (noBacktrack : options.backtrack = false) :
    (∀ offset context, grammar.parse options text = .error (.syntaxError offset context) ↔
      offset < text.byteLength ∧ text.IsBoundary offset ∧
      ∃ groups candidates before ahead, text = before ++ ahead ∧ offset = before.byteLength ∧
        grammar.Stands options.originalStrings text groups candidates before ahead ∧
        grammar.Stuck groups candidates ahead ∧
        context = before.takeLast 12 ++ "<<here>>".toList ++ ahead.take 12) ∧
    ∀ name marker offset, grammar.parse options text = .error (.unterminated name marker offset) ↔
      ∃ group outer candidates,
        grammar.Stands options.originalStrings text (group :: outer) candidates text [] ∧
        name = group.name ∧ marker = group.marker ∧ offset = group.before.byteLength ∧
        ∃ inside, text = group.before ++ marker ++ inside := by
  simp only [parse_eq_error_iff_failsAt prefixes noBacktrack]
  constructor
  · intro offset context
    constructor
    · intro failsAt
      cases failsAt with
      | @stuck groups candidates before ahead stands stuck =>
          have split := stands.text_eq
          refine ⟨?_, ⟨before, ahead, split, rfl⟩, groups, candidates, before, ahead, split, rfl,
            stands, stuck, rfl⟩
          have positive : ahead.byteLength ≠ 0 :=
            fun zero => stuck.inText (Text.byteLength_eq_zero.1 zero)
          rw [split, Text.byteLength_append]
          omega
    · rintro ⟨_, _, groups, candidates, before, ahead, _, rfl, stands, stuck, rfl⟩
      exact .stuck stands stuck
  · intro name marker offset
    constructor
    · intro failsAt
      cases failsAt with
      | @unclosed group outer candidates stands =>
          exact ⟨group, outer, candidates, stands, rfl, rfl, rfl, stands.opened group (by simp)⟩
    · rintro ⟨group, outer, candidates, stands, rfl, rfl, rfl, _⟩
      exact .unclosed stands

end Grammar

/-- The error of a parse, if it fails. -/
def Grammar.errorOf? (grammar : Grammar) (options : ParseOptions) (text : Text) :
    Option ParseError :=
  match grammar.parse options text with
  | .ok _ => none
  | .error error => some error

theorem Grammar.parse_eq_error {grammar : Grammar} {options : ParseOptions} {text : Text}
    {error : ParseError} (fails : grammar.errorOf? options text = some error) :
    grammar.parse options text = .error error := by
  unfold errorOf? at fails
  split at fails
  · cases fails
  · rename_i other failed
    cases fails
    exact failed

theorem Arithmetic.parse_fails_for_cause_index :
    grammar.FindsPrefixes ∧ ParseOptions.plain.backtrack = false ∧
    (∃ groups candidates, ∃ before ahead : Text, "f( a[ 0 )".toList = before ++ ahead ∧
      8 = before.byteLength ∧
      grammar.Stands false "f( a[ 0 )".toList groups candidates before ahead ∧
      grammar.Stuck groups candidates ahead) ∧
    ∃ group outer candidates, grammar.Stands false "f( a[ 0".toList (group :: outer) candidates
        "f( a[ 0".toList [] ∧ "index" = group.name ∧ 4 = group.before.byteLength := by
  have prefixes : grammar.FindsPrefixes := Grammar.findsPrefixes_of_isAnchored (by decide +kernel)
  have noBacktrack : ParseOptions.plain.backtrack = false := rfl
  refine ⟨prefixes, noBacktrack, ?_, ?_⟩
  · have fails : grammar.errorOf? .plain "f( a[ 0 )".toList =
        some (.syntaxError 8 "f( a[ 0 <<here>>)".toList) := by decide +kernel
    obtain ⟨_, _, groups, candidates, before, ahead, split, offset, stands, stuck, _⟩ :=
      ((Grammar.parse_fails_for_cause prefixes noBacktrack).1 _ _).1
        (Grammar.parse_eq_error fails)
    exact ⟨groups, candidates, before, ahead, split, offset, stands, stuck⟩
  · have fails : grammar.errorOf? .plain "f( a[ 0".toList =
        some (.unterminated "index" ['['] 4) := by decide +kernel
    obtain ⟨group, outer, candidates, stands, name, _, offset, _⟩ :=
      ((Grammar.parse_fails_for_cause prefixes noBacktrack).2 _ _ _).1
        (Grammar.parse_eq_error fails)
    exact ⟨group, outer, candidates, stands, name, offset⟩

end Parlance
