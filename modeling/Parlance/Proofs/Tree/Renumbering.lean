import Mathlib.Data.List.Forall2
import Parlance.Tree.Parsing

/-!
# Numbers of terms do not matter

Two grammars whose terms correspond under their numbers, with corresponding candidates, parse every
text alike: they give the same tree or the same error. Numbers are used only to look terms up, and no
node or error holds one.
-/

namespace Parlance

section

variable (same : TermId → TermId → Prop)

/-- The two are tokens, or groups with one end marker and corresponding candidates. -/
inductive TermBody.Alike : TermBody → TermBody → Prop where
  | token : Alike .token .token
  | group {stop subgroups others} (corresponds : List.Forall₂ same subgroups others) :
      Alike (.group stop subgroups) (.group stop others)

/-- The terms differ in nothing but the numbers of their candidates, which correspond. -/
structure Term.Alike (term other : Term) : Prop where
  name : term.name = other.name
  start : term.start = other.start
  body : term.body.Alike same other.body
  postgroups : Option.Rel (List.Forall₂ same) term.postgroups other.postgroups
  keeps : term.samePostgroups = other.samePostgroups

/-- The grammars have alike terms under corresponding numbers, and corresponding candidates at the
root. -/
structure Grammar.Alike (grammar other : Grammar) : Prop where
  rootName : grammar.rootName = other.rootName
  terms : ∀ id otherId, same id otherId → ∃ term otherTerm, grammar.term? id = some term ∧
    other.term? otherId = some otherTerm ∧ term.Alike same otherTerm
  root : List.Forall₂ same grammar.root other.root
  aether : Option.Rel same grammar.aether other.aether

/-- The attempts differ in nothing but the terms of a match, which are alike. -/
inductive Attempt.Alike : Attempt → Attempt → Prop where
  | matched {term other node cursor} (alike : term.Alike same other) :
      Alike (.matched term node cursor) (.matched other node cursor)
  | unmatched {rejected} : Alike (.unmatched rejected) (.unmatched rejected)

/-- The two fail with one error, or give attempts that are alike. -/
inductive Attempt.EndAlike : Except ParseError Attempt → Except ParseError Attempt → Prop where
  | error {error} : EndAlike (.error error) (.error error)
  | ok {attempt other} (alike : attempt.Alike same other) : EndAlike (.ok attempt) (.ok other)

end

variable {same : TermId → TermId → Prop} {grammar other : Grammar}

/-- Behind alike terms, corresponding candidates are due. -/
theorem Term.Alike.candidatesAfter {term otherTerm : Term} (alike : term.Alike same otherTerm)
    {present others : List TermId} (corresponds : List.Forall₂ same present others) :
    List.Forall₂ same (term.candidatesAfter present) (otherTerm.candidatesAfter others) := by
  have postgroups := alike.postgroups
  rw [Term.candidatesAfter, Term.candidatesAfter, alike.keeps]
  cases written : term.postgroups with
  | none =>
      rw [written] at postgroups
      generalize otherTerm.postgroups = further at postgroups
      cases postgroups
      exact corresponds
  | some ids =>
      rw [written] at postgroups
      generalize otherTerm.postgroups = further at postgroups
      cases postgroups with
      | some related =>
          by_cases keeps : otherTerm.samePostgroups = true
          · simpa [keeps] using corresponds
          · simpa [keeps] using related

namespace Parsing

variable {parsing : Parsing} {inner innerOther : GroupBody}

/-- The same parse with another grammar. -/
def under (parsing : Parsing) (grammar : Grammar) : Parsing := { parsing with grammar }

/-- With corresponding candidates, the bodies give the same. -/
def SameBodies (same : TermId → TermId → Prop) (inner innerOther : GroupBody) : Prop :=
  ∀ frame candidates others pending cursor, List.Forall₂ same candidates others →
    inner frame candidates pending cursor = innerOther frame others pending cursor

theorem group_under (bodies : SameBodies same inner innerOther) {subgroups others : List TermId}
    (corresponds : List.Forall₂ same subgroups others) (name : String) (marker : Text)
    (stop : Matcher) (cursor : Cursor) :
    parsing.group inner name marker stop subgroups cursor =
      (parsing.under other).group innerOther name marker stop others cursor := by
  rw [group, group, bodies _ _ _ _ _ corresponds]
  rfl

/-- Trying corresponding candidates ends alike. -/
theorem tryCandidates_under (alike : parsing.grammar.Alike same other)
    (bodies : SameBodies same inner innerOther) {candidates others : List TermId}
    (corresponds : List.Forall₂ same candidates others) (cursor : Cursor)
    (rejected : Option ParseError) :
    Attempt.EndAlike same (parsing.tryCandidates inner cursor candidates rejected)
      ((parsing.under other).tryCandidates innerOther cursor others rejected) := by
  induction corresponds generalizing rejected with
  | nil => exact .ok .unmatched
  | @cons id otherId ids otherIds sameHere _ ih =>
      obtain ⟨term, otherTerm, found, foundOther, sameTerm⟩ := alike.terms id otherId sameHere
      have foundUnder : (parsing.under other).grammar.term? otherId = some otherTerm := foundOther
      rw [tryCandidates, tryCandidates, found, foundUnder]
      simp only [sameTerm.start, sameTerm.name]
      cases otherTerm.start.matchAt? cursor with
      | none => exact ih rejected
      | some marker =>
          have bodiesAlike := sameTerm.body
          dsimp only
          generalize term.body = body at bodiesAlike
          generalize otherTerm.body = otherBody at bodiesAlike
          cases bodiesAlike with
          | token => exact .ok (.matched sameTerm)
          | @group stop subgroups others corresponds =>
              dsimp only
              rw [group_under bodies corresponds]
              cases (parsing.under other).group innerOther otherTerm.name marker stop others cursor with
              | ok read => exact .ok (.matched sameTerm)
              | error error =>
                  by_cases backtracks : parsing.options.backtrack = true
                  · simpa [backtracks, under] using ih (some (rejected.getD error))
                  · simpa [backtracks, under] using .error

/-- Skipping takes the same text. -/
theorem trySkip_under (alike : parsing.grammar.Alike same other)
    (bodies : SameBodies same inner innerOther) (cursor : Cursor) :
    parsing.trySkip inner cursor = (parsing.under other).trySkip innerOther cursor := by
  have aether := alike.aether
  rw [trySkip, trySkip]
  have otherGrammar : (parsing.under other).grammar = other := rfl
  rw [otherGrammar]
  generalize parsing.grammar.aether = skipped at aether
  generalize other.aether = otherSkipped at aether
  cases aether with
  | none => rfl
  | @some id otherId sameHere =>
      obtain ⟨term, otherTerm, found, foundOther, sameTerm⟩ := alike.terms id otherId sameHere
      rw [Option.bind_some, Option.bind_some, found, foundOther]
      simp only [sameTerm.start, sameTerm.name]
      have bodiesAlike := sameTerm.body
      generalize term.body = body at bodiesAlike
      generalize otherTerm.body = otherBody at bodiesAlike
      cases bodiesAlike with
      | token => rfl
      | @group stop subgroups others corresponds =>
          have grouped : ∀ marker,
              parsing.group inner otherTerm.name marker stop subgroups cursor =
                (parsing.under other).group innerOther otherTerm.name marker stop others cursor :=
            fun marker => group_under bodies corresponds _ _ _ _
          simp only [grouped]
          rfl

/-- However deep they look, the bodies give the same. -/
theorem body_under (alike : parsing.grammar.Alike same other) (fuel : Nat) :
    SameBodies same (parsing.body fuel) ((parsing.under other).body fuel) := by
  induction fuel with
  | zero => exact fun _ _ _ _ _ _ => rfl
  | succ fuel bodies =>
      intro frame candidates others pending cursor corresponds
      rw [body, body]
      have tried := tryCandidates_under alike bodies corresponds cursor none
      rw [← trySkip_under alike bodies]
      generalize parsing.tryCandidates (parsing.body fuel) cursor candidates none = outcome at tried
      generalize (parsing.under other).tryCandidates ((parsing.under other).body fuel) cursor others
        none = outcomeOther at tried
      cases tried with
      | error => rfl
      | ok attempts =>
          cases attempts with
          | matched sameTerm =>
              simp only [bind, Except.bind, bodies _ _ _ _ _ (sameTerm.candidatesAfter corresponds)]
              rfl
          | unmatched =>
              simp only [bind, Except.bind, bodies _ _ _ _ _ corresponds]
              rfl

end Parsing

/-- Grammars that differ in the numbers of their terms give the same tree or the same error. -/
theorem Grammar.Alike.parse_eq (alike : grammar.Alike same other) (options : ParseOptions)
    (text : Text) : grammar.parse options text = other.parse options text := by
  let parsing : Parsing := ⟨grammar, options, text, text.byteLength⟩
  have bodies : Parsing.SameBodies same (parsing.body (text.byteLength + 1))
      ((parsing.under other).body (text.byteLength + 1)) :=
    Parsing.body_under alike _
  rw [parse, parse, Parsing.run, Parsing.run, alike.rootName, bodies _ _ _ _ _ alike.root]
  rfl

end Parlance
