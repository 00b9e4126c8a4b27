import Parlance.Proofs.Tree.Backtracking
import Parlance.Proofs.Tree.Description

/-!
# Where backtracking makes no difference

A grammar never forks if, wherever a group starts, nothing else can be tried in its place: no later
candidate starts there, no group ends there and nothing is skipped there. A group that fails then
fails the parse with its own error, with backtracking and without it.
-/

namespace Parlance

namespace Grammar

/-- The term of this number is a group that starts with the text ahead. -/
def Opens (grammar : Grammar) (id : TermId) (ahead : Text) : Prop :=
  ∃ term, grammar.term? id = some term ∧ term.isToken = false ∧ term.start.match? ahead ≠ none

/-- The candidates of the root, those inside a term, or those behind one. -/
def IsList (grammar : Grammar) (candidates : List TermId) : Prop :=
  candidates = grammar.root ∨
    ∃ term ∈ grammar.terms, candidates = term.subgroups ∨ term.postgroups = some candidates

/-- No end marker, or that of a term. -/
def IsStop (grammar : Grammar) (stop : Option Matcher) : Prop :=
  ∀ matcher ∈ stop, ∃ term ∈ grammar.terms, term.stop? = some matcher

/-- Wherever a group starts, nothing else can be tried, and the term between tokens is a token. -/
structure NeverForks (grammar : Grammar) : Prop where
  later : ∀ candidates, grammar.IsList candidates → ∀ earlier id later,
    candidates = earlier ++ id :: later → ∀ ahead, grammar.Opens id ahead →
    grammar.NoneStarts later ahead
  stops : ∀ id ahead, grammar.Opens id ahead → ∀ term ∈ grammar.terms, ∀ stop ∈ term.stop?,
    stop.match? ahead = none
  skips : ∀ id ahead, grammar.Opens id ahead → ∀ term ∈ grammar.aether.bind grammar.term?,
    term.start.match? ahead = none
  skipsToken : ∀ term ∈ grammar.aether.bind grammar.term?, term.body = .token

variable {grammar : Grammar} {candidates : List TermId} {term : Term}

theorem IsList.after (list : grammar.IsList candidates) (member : term ∈ grammar.terms) :
    grammar.IsList (term.candidatesAfter candidates) := by
  unfold Term.candidatesAfter
  split
  · rename_i postgroups behind
    split
    · exact list
    · exact .inr ⟨term, member, .inr behind⟩
  · exact list

end Grammar

namespace Parsing

variable {parsing : Parsing} {inner other : GroupBody} {cursor : Cursor} {candidates : List TermId}

/-- Both parse the groups of the grammar alike. -/
def AgreeInside (parsing : Parsing) (inner other : GroupBody) : Prop :=
  ∀ frame candidates pending cursor, parsing.grammar.IsStop frame.stop →
    parsing.grammar.IsList candidates →
    inner frame candidates pending cursor = other frame candidates pending cursor

theorem tryCandidates_of_noneStarts {ahead : Text} (here : cursor.ahead = some ahead)
    (noneStarts : parsing.grammar.NoneStarts candidates ahead) (rejected : Option ParseError) :
    parsing.tryCandidates inner cursor candidates rejected = .ok (.unmatched rejected) := by
  induction candidates with
  | nil => rfl
  | cons id ids ih =>
      obtain ⟨idle, noneStarts⟩ := Grammar.noneStarts_cons.1 noneStarts
      rw [tryCandidates]
      cases named : parsing.grammar.term? id with
      | none => exact ih noneStarts
      | some term =>
          have found : term.start.matchAt? cursor = none := by
            rw [Matcher.matchAt?, here, Option.bind_some, idle term named]
          simpa only [found] using ih noneStarts

section

variable (neverForks : parsing.grammar.NeverForks) (noBacktrack : parsing.options.backtrack = false)
  (agree : parsing.AgreeInside other inner)
include neverForks noBacktrack agree

/-- An attempt with backtracking comes to the same as one without it, unless a group has started and
failed. Then there is nothing else with backtracking. -/
theorem tryCandidates_neverForks {earlier tried : List TermId}
    (list : parsing.grammar.IsList (earlier ++ tried)) :
    parsing.backtracking.tryCandidates other cursor tried none =
        parsing.tryCandidates inner cursor tried none ∨
      ∃ error id ahead, cursor.ahead = some ahead ∧ parsing.grammar.Opens id ahead ∧
        parsing.tryCandidates inner cursor tried none = .error error ∧
        parsing.backtracking.tryCandidates other cursor tried none =
          .ok (.unmatched (some error)) := by
  -- The candidates before are kept, since forks are ruled out for whole candidate lists.
  induction tried generalizing earlier with
  | nil => exact .inl rfl
  | cons id ids ih =>
      have rest := @ih (earlier ++ [id]) (by simpa using list)
      rw [tryCandidates, tryCandidates, backtracking_grammar]
      cases named : parsing.grammar.term? id with
      | none => exact rest
      | some term =>
          cases found : term.start.matchAt? cursor with
          | none => simpa only [found] using rest
          | some marker =>
              cases shape : term.body with
              | token => exact .inl (by simp only [found, shape])
              | group stop subgroups =>
                  have member := Grammar.mem_terms_of_term? named
                  have sameGroup : parsing.backtracking.group other term.name marker stop subgroups
                      cursor = parsing.group inner term.name marker stop subgroups cursor := by
                    rw [group, group, agree]
                    · rfl
                    · rintro _ ⟨⟩
                      exact ⟨term, member, by rw [Term.stop?, shape]⟩
                    · exact .inr ⟨term, member, .inl (by rw [Term.subgroups, shape])⟩
                  simp only [found, shape, sameGroup]
                  cases grouped : parsing.group inner term.name marker stop subgroups cursor with
                  | ok read => exact .inl rfl
                  | error error =>
                      obtain ⟨ahead, here, starts⟩ := Option.bind_eq_some_iff.1 found
                      have opens : parsing.grammar.Opens id ahead :=
                        ⟨term, named, by rw [Term.isToken, shape], by simp [starts]⟩
                      refine .inr ⟨error, id, ahead, here, opens, ?_, ?_⟩
                      · simp only [noBacktrack, Bool.false_eq_true, if_false]
                      · have noneStarts : parsing.backtracking.grammar.NoneStarts ids ahead :=
                          neverForks.later _ list earlier id ids rfl ahead opens
                        exact tryCandidates_of_noneStarts here noneStarts (some error)

end

/-- A token between tokens is skipped with backtracking as without it. -/
theorem trySkip_neverForks (neverForks : parsing.grammar.NeverForks) :
    parsing.backtracking.trySkip other cursor = parsing.trySkip inner cursor := by
  rw [trySkip, trySkip, backtracking_grammar]
  cases named : parsing.grammar.aether.bind parsing.grammar.term? with
  | none => rfl
  | some term => simp only [neverForks.skipsToken term named]

/-- Where a group starts, nothing is skipped. -/
theorem trySkip_of_opens (neverForks : parsing.grammar.NeverForks) {id : TermId} {ahead : Text}
    (here : cursor.ahead = some ahead) (opens : parsing.grammar.Opens id ahead) :
    parsing.trySkip inner cursor = .ok none := by
  rw [trySkip]
  cases named : parsing.grammar.aether.bind parsing.grammar.term? with
  | none => rfl
  | some term =>
      have found : term.start.matchAt? cursor = none := by
        rw [Matcher.matchAt?, here, Option.bind_some, neverForks.skips id ahead opens term named]
      simp only [found]

/-- Where a group starts, the group around it does not end. -/
theorem matchAt?_of_opens (neverForks : parsing.grammar.NeverForks) {id : TermId} {ahead : Text}
    (here : cursor.ahead = some ahead) (opens : parsing.grammar.Opens id ahead)
    {stop : Option Matcher} (isStop : parsing.grammar.IsStop stop) :
    stop.bind (·.matchAt? cursor) = none := by
  rw [bind_matchAt?_eq_none]
  intro matcher ends
  obtain ⟨term, member, stops⟩ := isStop matcher ends
  rw [Matcher.matchAt?, here, Option.bind_some, neverForks.stops id ahead opens term member _ stops]

/-- In a grammar that never forks, groups are parsed with backtracking as without it, also if that
fails. -/
theorem body_neverForks (neverForks : parsing.grammar.NeverForks)
    (noBacktrack : parsing.options.backtrack = false) (fuel : Nat) :
    parsing.AgreeInside (parsing.backtracking.body fuel) (parsing.body fuel) := by
  induction fuel with
  | zero =>
      intro frame candidates pending cursor _ _
      rfl
  | succ fuel agree =>
      intro frame candidates pending cursor isStop list
      rw [body, body]
      by_cases atEnd : parsing.size ≤ cursor.offset
      · rw [backtracking_size, if_pos atEnd, if_pos atEnd]
      · rw [backtracking_size, if_neg atEnd, if_neg atEnd]
        have attempts := @tryCandidates_neverForks parsing _ _ cursor neverForks noBacktrack agree []
          candidates list
        rcases attempts with same | ⟨error, id, ahead, here, opens, fails, nothing⟩
        · rw [same, trySkip_neverForks neverForks]
          cases tried : parsing.tryCandidates (parsing.body fuel) cursor candidates none with
          | error _ => rfl
          | ok attempt =>
              cases attempt with
              | matched term node after =>
                  obtain ⟨_, _, named, _⟩ := takes_of_tryCandidates tried
                  have member := Grammar.mem_terms_of_term? named
                  simp only [bind, Except.bind]
                  rw [agree _ _ _ _ isStop (list.after member)]
              | unmatched rejected =>
                  simp only [bind, Except.bind]
                  cases frame.stop.bind (·.matchAt? cursor) with
                  | some _ => rfl
                  | none =>
                      cases parsing.trySkip (parsing.body fuel) cursor with
                      | error _ => rfl
                      | ok skip =>
                          cases skip with
                          | none => rfl
                          | some skip => exact agree _ _ _ _ isStop list
        · rw [nothing, fails, trySkip_neverForks neverForks,
            trySkip_of_opens neverForks here opens]
          simp only [bind, Except.bind, matchAt?_of_opens neverForks here opens isStop]
          rfl

end Parsing

/-- Where a grammar never forks, backtracking is not seen: every text has the same tree or the same
error. -/
theorem Grammar.NeverForks.parse_eq {grammar : Grammar} (neverForks : grammar.NeverForks)
    (keeps : Bool) (text : Text) :
    grammar.parse ⟨true, keeps⟩ text = grammar.parse ⟨false, keeps⟩ text := by
  have same := @Parsing.body_neverForks ⟨grammar, ⟨false, keeps⟩, text, text.byteLength⟩ neverForks
    rfl (text.byteLength + 1) ⟨grammar.rootName, [], .start text, none⟩ grammar.root []
    (.start text) (by rintro _ ⟨⟩) (.inl rfl)
  have backtracking : Parsing.backtracking ⟨grammar, ⟨false, keeps⟩, text, text.byteLength⟩ =
      ⟨grammar, ⟨true, keeps⟩, text, text.byteLength⟩ := rfl
  rw [backtracking] at same
  rw [parse, parse, Parsing.run, Parsing.run, same]
  rfl

end Parlance
