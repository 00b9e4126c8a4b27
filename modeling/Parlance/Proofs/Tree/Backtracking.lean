import Parlance.Grammar.Resolution
import Parlance.Proofs.Tree.Progress

/-!
# Backtracking is conservative

With backtracking, a text that can be parsed without it has the same tree. Every child is what the
first candidate makes of the text that can make anything of it, and candidates that cannot leave no
trace: groups go on from there as if these had not been among the candidates.
-/

namespace Parlance

/-- Dropping bytes twice is dropping them together. -/
theorem Text.dropBytes?_dropBytes? {text ahead : Text} {first : Nat}
    (cut : text.dropBytes? first = some ahead) (second : Nat) :
    ahead.dropBytes? second = text.dropBytes? (first + second) := by
  fun_induction dropBytes? text first with
  | case1 text =>
      cases cut
      rw [Nat.zero_add]
  | case2 => cases cut
  | case3 char rest count fits ih =>
      rw [ih cut, show count + 1 + second = (count + second) + 1 by omega, dropBytes?,
        if_pos (by omega)]
      congr 1
      omega
  | case4 => cases cut

namespace Parsing

variable {parsing : Parsing} {inner other : GroupBody} {cursor after : Cursor} {term : Term}
  {marker : Text} {node : Node} {frame : Frame} {candidates : List TermId} {pending : Text}
  {closed : Closed}

/-! ### Trees that are found without backtracking -/

/-- The same parse with backtracking. -/
def backtracking (parsing : Parsing) : Parsing :=
  { parsing with options := { parsing.options with backtrack := true } }

@[simp] theorem backtracking_grammar (parsing : Parsing) :
    parsing.backtracking.grammar = parsing.grammar := rfl

@[simp] theorem backtracking_size (parsing : Parsing) : parsing.backtracking.size = parsing.size :=
  rfl

section

variable (carriesOver : ∀ frame candidates pending cursor closed,
  inner frame candidates pending cursor = .ok closed →
    other frame candidates pending cursor = .ok closed)
include carriesOver

theorem group_backtracking {name : String} {stop : Matcher} {subgroups : List TermId}
    {read : Node × Cursor}
    (grouped : parsing.group inner name marker stop subgroups cursor = .ok read) :
    parsing.backtracking.group other name marker stop subgroups cursor = .ok read := by
  obtain ⟨node, after⟩ := read
  obtain ⟨closed, parsed, rfl, rfl⟩ := group_eq_ok_iff.1 grouped
  exact group_eq_ok_iff.2 ⟨closed, carriesOver _ _ _ _ _ parsed, rfl, rfl⟩

/-- An attempt that succeeds without backtracking has given up on nothing. -/
theorem tryCandidates_backtracking (noBacktrack : parsing.options.backtrack = false)
    {tried : List TermId} {rejected : Option ParseError} {attempt : Attempt}
    (succeeds : parsing.tryCandidates inner cursor tried rejected = .ok attempt) :
    parsing.backtracking.tryCandidates other cursor tried rejected = .ok attempt := by
  induction tried with
  | nil => exact succeeds
  | cons id ids ih =>
      rw [tryCandidates] at succeeds ⊢
      rw [backtracking_grammar]
      cases named : parsing.grammar.term? id with
      | none => exact ih (by simpa only [named] using succeeds)
      | some term =>
          cases found : term.start.matchAt? cursor with
          | none =>
              simp only [named, found] at succeeds ⊢
              exact ih succeeds
          | some marker =>
              cases shape : term.body with
              | token =>
                  simp only [named, found, shape] at succeeds ⊢
                  exact succeeds
              | group stop subgroups =>
                  cases grouped : parsing.group inner term.name marker stop subgroups cursor with
                  | error error => simp [named, found, shape, grouped, noBacktrack] at succeeds
                  | ok read =>
                      simp only [named, found, shape, grouped] at succeeds
                      simp only [found, shape, group_backtracking carriesOver grouped, succeeds]

theorem trySkip_backtracking {skipped : Text}
    (skips : parsing.trySkip inner cursor = .ok (some (skipped, after))) :
    parsing.backtracking.trySkip other cursor = .ok (some (skipped, after)) := by
  obtain ⟨term, marker, node, named, found, takes, same⟩ := trySkip_eq_some_iff.1 skips
  refine trySkip_eq_some_iff.2 ⟨term, marker, node, named, found, ?_, same⟩
  cases shape : term.body with
  | token => simpa only [Takes, shape] using takes
  | group stop subgroups =>
      simp only [Takes, shape] at takes ⊢
      exact group_backtracking carriesOver takes

end

/-- What is parsed without backtracking is parsed in the same way with it. -/
theorem body_backtracking (noBacktrack : parsing.options.backtrack = false) (fuel : Nat)
    (frame : Frame) (candidates : List TermId) (pending : Text) (cursor : Cursor) (closed : Closed)
    (done : parsing.body fuel frame candidates pending cursor = .ok closed) :
    parsing.backtracking.body fuel frame candidates pending cursor = .ok closed := by
  induction fuel generalizing frame candidates pending cursor closed with
  | zero => cases done
  | succ fuel ih =>
      rw [body_succ_eq_ok_iff] at done ⊢
      cases done with
      | ends atEnd root => exact .ends atEnd root
      | child inText matched continues =>
          exact .child inText (tryCandidates_backtracking ih noBacktrack matched)
            (ih _ _ _ _ _ continues)
      | closes inText unmatched stops ended =>
          exact .closes inText (tryCandidates_backtracking ih noBacktrack unmatched) stops ended
      | skips inText unmatched stays skipping continues =>
          exact .skips inText (tryCandidates_backtracking ih noBacktrack unmatched) stays
            (trySkip_backtracking ih skipping) (ih _ _ _ _ _ continues)

/-! ### Candidates that can be taken -/

/-- The term starts at the cursor and is a token, or `inner` parses its group from there. -/
def CanTake (parsing : Parsing) (inner : GroupBody) (cursor : Cursor) (term : Term) : Prop :=
  ∃ marker node after, term.start.matchAt? cursor = some marker ∧
    parsing.Takes inner cursor term marker node after

/-- No term of this number can be taken at the cursor. -/
def Refuses (parsing : Parsing) (inner : GroupBody) (cursor : Cursor) (id : TermId) : Prop :=
  ∀ term ∈ parsing.grammar.term? id, ¬parsing.CanTake inner cursor term

/-- The term is the first of the candidates that can be taken at the cursor, and it takes the
node. -/
def FirstTaken (parsing : Parsing) (inner : GroupBody) (cursor : Cursor)
    (candidates : List TermId) (term : Term) (node : Node) (after : Cursor) : Prop :=
  ∃ earlier id later marker, candidates = earlier ++ id :: later ∧
    (∀ refused ∈ earlier, parsing.Refuses inner cursor refused) ∧
    parsing.grammar.term? id = some term ∧ term.start.matchAt? cursor = some marker ∧
    parsing.Takes inner cursor term marker node after

/-- A candidate can be taken, or else there is none of its number that can. -/
theorem takes_or_refuses (parsing : Parsing) (inner : GroupBody) (cursor : Cursor) (id : TermId) :
    (∃ term marker node after, parsing.grammar.term? id = some term ∧
      term.start.matchAt? cursor = some marker ∧
      parsing.Takes inner cursor term marker node after) ∨ parsing.Refuses inner cursor id := by
  by_cases taken : ∃ term marker node after, parsing.grammar.term? id = some term ∧
      term.start.matchAt? cursor = some marker ∧
      parsing.Takes inner cursor term marker node after
  · exact .inl taken
  · refine .inr ?_
    rintro term named ⟨marker, node, after, found, takes⟩
    exact taken ⟨term, marker, node, after, named, found, takes⟩

theorem canTake_token (found : term.start.matchAt? cursor = some marker)
    (shape : term.body = .token) : parsing.CanTake inner cursor term := by
  refine ⟨marker, ?_⟩
  simp only [Takes, shape]
  exact ⟨_, _, found, rfl, rfl⟩

theorem canTake_group (found : term.start.matchAt? cursor = some marker) {stop : Matcher}
    {subgroups : List TermId} (shape : term.body = .group stop subgroups) {read : Node × Cursor}
    (grouped : parsing.group inner term.name marker stop subgroups cursor = .ok read) :
    parsing.CanTake inner cursor term := by
  refine ⟨marker, read.1, read.2, found, ?_⟩
  simp only [Takes, shape]
  exact grouped

theorem tryCandidates_cons_of_takes {id : TermId} (ids : List TermId)
    (rejected : Option ParseError) (named : parsing.grammar.term? id = some term)
    (found : term.start.matchAt? cursor = some marker)
    (takes : parsing.Takes inner cursor term marker node after) :
    parsing.tryCandidates inner cursor (id :: ids) rejected = .ok (.matched term node after) := by
  rw [tryCandidates]
  cases shape : term.body with
  | token =>
      simp only [Takes, shape] at takes
      obtain ⟨rfl, rfl⟩ := takes
      simp only [named, found, shape]
  | group stop subgroups =>
      simp only [Takes, shape] at takes
      simp only [named, found, shape, takes]

/-- With backtracking, a candidate that cannot be taken gives way to the next one. -/
theorem tryCandidates_cons_of_refuses (backtracks : parsing.options.backtrack = true) {id : TermId}
    (refuses : parsing.Refuses inner cursor id) (ids : List TermId)
    (rejected : Option ParseError) : ∃ first,
      parsing.tryCandidates inner cursor (id :: ids) rejected =
        parsing.tryCandidates inner cursor ids first := by
  cases named : parsing.grammar.term? id with
  | none => exact ⟨rejected, by simp only [tryCandidates, named]⟩
  | some term =>
      have refused := refuses term named
      cases found : term.start.matchAt? cursor with
      | none => exact ⟨rejected, by simp only [tryCandidates, named, found]⟩
      | some marker =>
          cases shape : term.body with
          | token => exact absurd (canTake_token found shape) refused
          | group stop subgroups =>
              cases grouped : parsing.group inner term.name marker stop subgroups cursor with
              | ok read => exact absurd (canTake_group found shape grouped) refused
              | error error =>
                  refine ⟨some (rejected.getD error), ?_⟩
                  simp only [tryCandidates, named, found, shape, grouped, backtracks, if_true]

/-- With backtracking, the child is what the first candidate takes that can take anything. -/
theorem firstTaken_of_matched (backtracks : parsing.options.backtrack = true)
    {tried : List TermId} {rejected : Option ParseError}
    (matched : parsing.tryCandidates inner cursor tried rejected = .ok (.matched term node after)) :
    parsing.FirstTaken inner cursor tried term node after := by
  induction tried generalizing rejected with
  | nil => cases matched
  | cons id ids ih =>
      rcases parsing.takes_or_refuses inner cursor id with
        ⟨taken, marker, read, behind, named, found, takes⟩ | refuses
      · rw [tryCandidates_cons_of_takes ids rejected named found takes] at matched
        cases matched
        exact ⟨[], id, ids, marker, rfl, by simp, named, found, takes⟩
      · obtain ⟨first, gives⟩ := tryCandidates_cons_of_refuses backtracks refuses ids rejected
        rw [gives] at matched
        obtain ⟨earlier, other, later, marker, split, refused, rest⟩ := ih matched
        refine ⟨id :: earlier, other, later, marker, by rw [split]; rfl, ?_, rest⟩
        simpa using ⟨refuses, refused⟩

/-! ### Candidates that leave no trace -/

/-- The attempts come to the same child, or both come to none. -/
inductive SameAttempt : Except ParseError Attempt → Except ParseError Attempt → Prop where
  | matched {taken : Term} {read : Node} {behind : Cursor} :
      SameAttempt (.ok (.matched taken read behind)) (.ok (.matched taken read behind))
  | unmatched {rejected rejectedToo : Option ParseError} :
      SameAttempt (.ok (.unmatched rejected)) (.ok (.unmatched rejectedToo))

/-- What was given up on before does not matter. -/
theorem sameAttempt_tryCandidates (backtracks : parsing.options.backtrack = true)
    (tried : List TermId) (rejected rejectedToo : Option ParseError) :
    SameAttempt (parsing.tryCandidates inner cursor tried rejected)
      (parsing.tryCandidates inner cursor tried rejectedToo) := by
  induction tried generalizing rejected rejectedToo with
  | nil => exact .unmatched
  | cons id ids ih =>
      rcases parsing.takes_or_refuses inner cursor id with
        ⟨taken, marker, read, behind, named, found, takes⟩ | refuses
      · rw [tryCandidates_cons_of_takes ids _ named found takes,
          tryCandidates_cons_of_takes ids _ named found takes]
        exact .matched
      · obtain ⟨first, gives⟩ := tryCandidates_cons_of_refuses backtracks refuses ids rejected
        obtain ⟨second, givesToo⟩ := tryCandidates_cons_of_refuses backtracks refuses ids rejectedToo
        rw [gives, givesToo]
        exact ih first second

/-- A candidate that cannot be taken can be left out. -/
theorem sameAttempt_of_refuses (backtracks : parsing.options.backtrack = true) {id : TermId}
    (refuses : parsing.Refuses inner cursor id) (earlier later : List TermId)
    (rejected rejectedToo : Option ParseError) :
    SameAttempt (parsing.tryCandidates inner cursor (earlier ++ id :: later) rejected)
      (parsing.tryCandidates inner cursor (earlier ++ later) rejectedToo) := by
  induction earlier generalizing rejected rejectedToo with
  | nil =>
      obtain ⟨first, gives⟩ := tryCandidates_cons_of_refuses backtracks refuses later rejected
      rw [List.nil_append, gives]
      exact sameAttempt_tryCandidates backtracks later first rejectedToo
  | cons other earlier ih =>
      rcases parsing.takes_or_refuses inner cursor other with
        ⟨taken, marker, read, behind, named, found, takes⟩ | refusesOther
      · rw [List.cons_append, List.cons_append, tryCandidates_cons_of_takes _ _ named found takes,
          tryCandidates_cons_of_takes _ _ named found takes]
        exact .matched
      · rw [List.cons_append, List.cons_append]
        obtain ⟨first, gives⟩ :=
          tryCandidates_cons_of_refuses backtracks refusesOther (earlier ++ id :: later) rejected
        obtain ⟨second, givesToo⟩ :=
          tryCandidates_cons_of_refuses backtracks refusesOther (earlier ++ later) rejectedToo
        rw [gives, givesToo]
        exact ih first second

/-- Attempts that come to the same let the group go on in the same way. Only the error may be
another one. -/
theorem proceed_toOption_eq {tried others : List TermId}
    (same : SameAttempt (parsing.tryCandidates inner cursor tried none)
      (parsing.tryCandidates inner cursor others none))
    (aether : Option TermId) (frame : Frame) (candidates : List TermId) (pending : Text) :
    (parsing.proceed inner tried aether frame candidates pending cursor).toOption =
      (parsing.proceed inner others aether frame candidates pending cursor).toOption := by
  rw [proceed, proceed]
  generalize parsing.tryCandidates inner cursor tried none = attempt at same
  generalize parsing.tryCandidates inner cursor others none = attemptToo at same
  split
  · rfl
  · cases same with
    | matched => rfl
    | @unmatched rejected rejectedToo =>
        simp only [bind, Except.bind]
        split
        · rfl
        · cases (parsing.skipping aether).trySkip inner cursor with
          | error _ => rfl
          | ok skip =>
              cases skip with
              | some _ => rfl
              | none => cases rejected <;> cases rejectedToo <;> rfl

/-- With backtracking, nothing is skipped if the term between tokens cannot be taken. -/
theorem trySkip_of_refuses (backtracks : parsing.options.backtrack = true) {id : TermId}
    (refuses : parsing.Refuses inner cursor id) :
    (parsing.skipping (some id)).trySkip inner cursor = .ok none := by
  rw [trySkip, skipping_aether, Option.bind_some, skipping_term?]
  cases named : parsing.grammar.term? id with
  | none => rfl
  | some term =>
      have refused := refuses term named
      cases found : term.start.matchAt? cursor with
      | none => simp only [found]
      | some marker =>
          cases shape : term.body with
          | token => exact absurd (canTake_token found shape) refused
          | group stop subgroups =>
              cases grouped : parsing.group inner term.name marker stop subgroups cursor with
              | ok read => exact absurd (canTake_group found shape grouped) refused
              | error error =>
                  simp only [found, shape, skipping_group, grouped, skipping_options, backtracks,
                    if_true]

theorem proceed_of_refuses_skip (backtracks : parsing.options.backtrack = true) {id : TermId}
    (refuses : parsing.Refuses inner cursor id) (tried : List TermId) (frame : Frame)
    (candidates : List TermId) (pending : Text) :
    parsing.proceed inner tried (some id) frame candidates pending cursor =
      parsing.proceed inner tried none frame candidates pending cursor := by
  have nothing : (parsing.skipping none).trySkip inner cursor = .ok none := rfl
  rw [proceed, proceed, trySkip_of_refuses backtracks refuses, nothing]

/-! ### Trees that are found with backtracking -/

/-- The cursor at an offset of the parsed text. -/
def cursorAt (parsing : Parsing) (offset : Nat) : Cursor := ⟨offset, parsing.input.dropBytes? offset⟩

/-- Each of the children is what the first of its candidates takes that can be taken at its
position, and so are the children inside it. -/
inductive Chosen (parsing : Parsing) : List TermId → List Node → Prop where
  | nil {candidates : List TermId} : Chosen parsing candidates []
  | cons {candidates : List TermId} {chosen : Term} {child : Node} {behind : Cursor}
      {leading : Text} {rest : List Node}
      (first : parsing.FirstTaken parsing.inside (parsing.cursorAt child.position) candidates chosen
        child behind)
      (below : Chosen parsing chosen.subgroups child.children)
      (next : Chosen parsing (chosen.candidatesAfter candidates) rest) :
      Chosen parsing candidates (child.withLeading leading :: rest)

theorem cursorAt_advance {offset : Nat} {matcher : Matcher}
    (found : matcher.matchAt? (parsing.cursorAt offset) = some marker) :
    (parsing.cursorAt offset).advance marker = parsing.cursorAt (offset + marker.byteLength) := by
  obtain ⟨ahead, cut, _⟩ := Option.bind_eq_some_iff.1 found
  have cut : parsing.input.dropBytes? offset = some ahead := cut
  rw [Cursor.advance, cursorAt, cursorAt]
  simp only [cut, Option.bind_some, Text.dropBytes?_dropBytes? cut]

theorem position_of_takes (takes : parsing.Takes inner cursor term marker node after) :
    node.position = cursor.offset := by
  unfold Takes at takes
  split at takes
  · obtain ⟨rfl, _⟩ := takes
    rfl
  · obtain ⟨closed, _, rfl, _⟩ := group_eq_ok_iff.1 takes
    rfl

/-- The children of what is left of a group have been chosen, and it ends at a cursor of the
text. -/
def ChoosesFrom (parsing : Parsing) (offset : Nat) : Prop :=
  ∀ frame candidates pending closed,
    parsing.inside frame candidates pending (parsing.cursorAt offset) = .ok closed →
    parsing.Chosen candidates closed.children ∧
      closed.cursor = parsing.cursorAt closed.cursor.offset

/-- If groups further on choose their children, so does the term that is taken. -/
theorem chosen_of_takes {offset : Nat} (chooses : ∀ further, offset < further →
    parsing.ChoosesFrom further) (found : term.start.matchAt? (parsing.cursorAt offset) = some marker)
    (takes : parsing.Takes parsing.inside (parsing.cursorAt offset) term marker node after) :
    parsing.Chosen term.subgroups node.children ∧ after = parsing.cursorAt after.offset := by
  have positive := Matcher.byteLength_pos_of_matchAt? found
  have moved := cursorAt_advance found
  cases shape : term.body with
  | token =>
      simp only [Takes, shape, moved] at takes
      obtain ⟨rfl, rfl⟩ := takes
      exact ⟨.nil, rfl⟩
  | group stop subgroups =>
      simp only [Takes, shape] at takes
      obtain ⟨closed, parsed, rfl, rfl⟩ := group_eq_ok_iff.1 takes
      rw [moved] at parsed
      rw [Term.subgroups, shape]
      exact chooses _ (by omega) _ _ _ _ parsed

/-- With backtracking, every group chooses its children, whatever it begins with. -/
theorem inside_chooses (backtracks : parsing.options.backtrack = true) (offset : Nat) :
    parsing.ChoosesFrom offset := by
  induction left : parsing.size - offset using Nat.strongRecOn generalizing offset with
  | ind left ih =>
      intro frame candidates pending closed done
      -- Whatever is taken before the end of the text leads further on.
      have chooses (inText : ¬parsing.size ≤ (parsing.cursorAt offset).offset) (further : Nat)
          (beyond : offset < further) : parsing.ChoosesFrom further := by
        have before : offset < parsing.size := Nat.lt_of_not_le inText
        exact ih (parsing.size - further) (by omega) further rfl
      cases inside_eq_ok_iff.1 done with
      | ends _ _ => exact ⟨.nil, rfl⟩
      | @child term node after rest inText matched continues =>
          have first := firstTaken_of_matched backtracks matched
          obtain ⟨_, _, _, marker, _, _, _, found, takes⟩ := firstTaken_of_matched backtracks matched
          obtain ⟨below, onText⟩ := chosen_of_takes (chooses inText) found takes
          have beyond := lt_of_takes parsing.inside_advances found takes
          have position : node.position = offset := position_of_takes takes
          rw [onText] at continues
          obtain ⟨next, ends⟩ := chooses inText _ beyond _ _ _ _ continues
          rw [← position] at first
          exact ⟨.cons first below next, ends⟩
      | closes _ _ _ ended => exact ⟨.nil, cursorAt_advance ended⟩
      | skips inText _ _ skipping continues =>
          obtain ⟨_, _, _, _, found, takes, _⟩ := trySkip_eq_some_iff.1 skipping
          obtain ⟨_, onText⟩ := chosen_of_takes (chooses inText) found takes
          have beyond := lt_of_takes parsing.inside_advances found takes
          rw [onText] at continues
          exact chooses inText _ beyond _ _ _ _ continues

/-- From any point a group goes on as if a candidate that cannot be taken there were not tried there,
and as if nothing could be skipped there if the term between tokens cannot be taken. Only the error
may be another one, that of the first candidate given up on. -/
structure ForgetsRefused (parsing : Parsing) : Prop where
  goesOn : ∀ frame candidates pending cursor,
    parsing.inside frame candidates pending cursor =
      parsing.proceed parsing.inside candidates parsing.grammar.aether frame candidates pending cursor
  candidate : ∀ cursor id, parsing.Refuses parsing.inside cursor id →
    ∀ earlier later aether frame candidates pending,
      (parsing.proceed parsing.inside (earlier ++ id :: later) aether frame candidates pending
          cursor).toOption =
        (parsing.proceed parsing.inside (earlier ++ later) aether frame candidates pending
          cursor).toOption
  skip : ∀ cursor id, parsing.Refuses parsing.inside cursor id →
    ∀ tried frame candidates pending,
      parsing.proceed parsing.inside tried (some id) frame candidates pending cursor =
        parsing.proceed parsing.inside tried none frame candidates pending cursor

theorem forgetsRefused (backtracks : parsing.options.backtrack = true) : parsing.ForgetsRefused where
  goesOn := parsing.inside_eq
  candidate _ _ refuses earlier later aether frame candidates pending :=
    proceed_toOption_eq (sameAttempt_of_refuses backtracks refuses earlier later none none) aether
      frame candidates pending
  skip _ _ refuses := proceed_of_refuses_skip backtracks refuses

end Parsing

/-- The parse of a text with backtracking. -/
def Grammar.backtracking (grammar : Grammar) (keeps : Bool) (text : Text) : Parsing :=
  ⟨grammar, ⟨true, keeps⟩, text, text.byteLength⟩

/-- Backtracking is conservative: a tree that is found without it is found with it. In a tree that is
found with it every child is what the first candidate takes that can be taken at its position, and
candidates and terms between tokens that cannot be taken leave no trace. -/
theorem Grammar.backtracking_conservative (grammar : Grammar) (keeps : Bool) (text : Text) :
    (∀ tree, grammar.parse ⟨false, keeps⟩ text = .ok tree →
      grammar.parse ⟨true, keeps⟩ text = .ok tree) ∧
    (∀ tree, grammar.parse ⟨true, keeps⟩ text = .ok tree →
      (grammar.backtracking keeps text).Chosen grammar.root tree.children) ∧
    (grammar.backtracking keeps text).ForgetsRefused := by
  refine ⟨?_, ?_, Parsing.forgetsRefused rfl⟩
  · intro tree parsed
    rw [parse_eq_ok_iff_body] at parsed ⊢
    obtain ⟨closed, done, rfl⟩ := parsed
    exact ⟨closed, Parsing.body_backtracking rfl _ _ _ _ _ _ done, rfl⟩
  · intro tree parsed
    obtain ⟨closed, done, rfl⟩ := parse_eq_ok_iff_body.1 parsed
    have start : Cursor.between [] text = (grammar.backtracking keeps text).cursorAt 0 := by
      rw [Parsing.cursorAt, Text.dropBytes?_zero]
      rfl
    rw [start] at done
    exact (Parsing.inside_chooses rfl 0 _ _ _ _ done).1

/-- Brackets around digits and brackets around letters. -/
def twoBrackets : Spec :=
  Spec.rootedAt "root"
    |>.phrase "root" ["digits", "letters"]
    |>.term "digits" (.group (.literal "(".toList) (.literal ")".toList) ["digit"])
    |>.term "letters" (.group (.literal "(".toList) (.literal ")".toList) ["letter"])
    |>.term "digit" (.token (.pattern "[0-9]".toList))
    |>.term "letter" (.token (.pattern "[a-z]".toList))

/-- The brackets that give way to others in one place are still taken in the next. -/
example : (twoBrackets.resolve.toOption.map fun grammar =>
    ((grammar.parse ⟨false, false⟩ "(ab)(12)".toList).isOk,
      (grammar.parse ⟨true, false⟩ "(ab)(12)".toList).toOption.map fun tree =>
        tree.children.map Node.name)) = some (false, some ["letters", "digits"]) := by
  decide +kernel

end Parlance
