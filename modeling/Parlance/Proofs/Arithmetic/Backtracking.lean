import Parlance.Proofs.Arithmetic.Token
import Parlance.Proofs.Tree.Forking

/-!
# Backtracking in the arithmetic language

The groups of the arithmetic language open with brackets. Nothing else starts with an opening
bracket where that group may stand, no group ends at one and it is no blank, so backtracking is never
seen.
-/

namespace Parlance.Arithmetic

variable {id : TermId} {ids : List TermId} {ahead : Text} {char : Char} {term : Term}

/-- The bracket that the term opens with, if it is a group. -/
def Outline.opening? (outline : Outline) : Option Char :=
  match outline.stop, outline.start with
  | some _, some [[char]] => some char
  | _, _ => none

/-- The bracket that the term of this number opens with, if it is a group. -/
def opening? (id : TermId) : Option Char := outlines[id]?.bind Outline.opening?

/-- All candidate lists of the language. -/
def candidateLists : List (List TermId) := [valueIds, operationIds, propertyIds, []]

/-- Whether no candidate behind the first one starts with its bracket. -/
def closesOff : List TermId → Bool
  | [] => true
  | id :: ids => (opening? id).all (idleAt ids)

/-- Whether no group ends at the character and nothing is skipped there. -/
def standsOut (char : Char) : Bool :=
  (grammar.terms.all fun term => term.stop?.all (·.isIdleAt char)) &&
    (grammar.aether.bind grammar.term?).all fun term => term.start.isIdleAt char

theorem candidateLists_closeOff :
    (candidateLists.all fun ids => ids.tails.all closesOff) = true := by
  decide +kernel

theorem brackets_standOut : (outlines.all fun outline => outline.opening?.all standsOut) = true := by
  decide +kernel

theorem listed_of_term? (named : grammar.term? id = some term) :
    outlines[id]? = some (outlineOf term) := by
  rw [← grammar_outlined.1, List.getElem?_map]
  exact congrArg (Option.map outlineOf) named

theorem mem_outlines (member : term ∈ grammar.terms) : outlineOf term ∈ outlines := by
  rw [← grammar_outlined.1]
  exact List.mem_map_of_mem member

/-- Groups start with their bracket only. -/
theorem opening_of_opens (opens : grammar.Opens id ahead) :
    ∃ char rest, opening? id = some char ∧ ahead = char :: rest := by
  obtain ⟨term, named, isGroup, starts⟩ := opens
  have listed := listed_of_term? named
  have opened : (outlines.all fun outline => outline.stop.isNone || outline.opening?.isSome) =
      true := by decide
  have here := List.all_eq_true.1 opened _ (List.mem_of_getElem? listed)
  have stops : (outlineOf term).stop.isNone = false := by
    unfold Term.isToken at isGroup
    cases shape : term.body with
    | token => simp [shape] at isGroup
    | group stop inside => simp [outlineOf, Term.stop?, shape]
  rw [stops, Bool.false_or] at here
  obtain ⟨char, opening⟩ := Option.isSome_iff_exists.1 here
  have fixed : (outlineOf term).start = some [[char]] := by
    unfold Outline.opening? at opening
    split at opening
    · rename_i same
      cases opening
      exact same
    · cases opening
  rw [match?_of_outline named listed fixed ahead] at starts
  obtain ⟨text, found⟩ := Option.ne_none_iff_exists'.1 starts
  have within : text <+: ahead := by simpa using List.find?_some found
  rw [List.mem_singleton.1 (List.mem_of_find?_eq_some found)] at within
  obtain ⟨rest, rfl⟩ := within
  exact ⟨char, rest, by rw [opening?, listed, Option.bind_some, opening], rfl⟩

theorem mem_candidateLists (list : grammar.IsList ids) : ids ∈ candidateLists := by
  have inside : (outlines.all fun outline => decide (outline.inside ∈ candidateLists)) = true := by
    decide +kernel
  have behind : (outlines.all fun outline =>
      outline.next.all fun next => decide (next ∈ candidateLists)) = true := by
    decide +kernel
  rcases list with root | ⟨term, member, within | next⟩
  · rw [root, grammar_outlined.2.1]
    decide
  · rw [within]
    exact of_decide_eq_true (List.all_eq_true.1 inside _ (mem_outlines member))
  · have here := List.all_eq_true.1 behind _ (mem_outlines member)
    rw [show (outlineOf term).next = some ids from next, Option.all_some] at here
    exact of_decide_eq_true here

theorem standsOut_of_opening? (opening : opening? id = some char) : standsOut char = true := by
  obtain ⟨outline, listed, opening⟩ := Option.bind_eq_some_iff.1 opening
  have here := List.all_eq_true.1 brackets_standOut _ (List.mem_of_getElem? listed)
  rwa [opening, Option.all_some] at here

/-- Where a bracket opens a group, nothing else can be tried. -/
theorem neverForks : grammar.NeverForks where
  later ids list earlier id later split ahead opens := by
    obtain ⟨char, rest, opening, rfl⟩ := opening_of_opens opens
    have all := List.all_eq_true.1 candidateLists_closeOff ids (mem_candidateLists list)
    have here := List.all_eq_true.1 all (id :: later)
      ((List.mem_tails _ _).2 ⟨earlier, split.symm⟩)
    rw [closesOff, opening, Option.all_some] at here
    exact noneStarts_of_idleAt here rest
  stops id ahead opens term member stop ends := by
    obtain ⟨char, rest, opening, rfl⟩ := opening_of_opens opens
    obtain ⟨idle, _⟩ := Bool.and_eq_true_iff.1 (standsOut_of_opening? opening)
    have here := List.all_eq_true.1 idle term member
    rw [Option.mem_def.1 ends, Option.all_some] at here
    exact Matcher.match?_of_isIdleAt here rest
  skips id ahead opens term named := by
    obtain ⟨char, rest, opening, rfl⟩ := opening_of_opens opens
    obtain ⟨_, idle⟩ := Bool.and_eq_true_iff.1 (standsOut_of_opening? opening)
    rw [Option.mem_def.1 named, Option.all_some] at idle
    exact Matcher.match?_of_isIdleAt idle rest
  skipsToken term named := by
    rw [Option.mem_def, grammar_outlined.2.2, Option.bind_some] at named
    have outlined : outlineOf term = ⟨"whitespace", none, none, [], none, false⟩ :=
      outlineOf_eq named rfl
    simp only [outlineOf, Outline.mk.injEq, Option.map_eq_none_iff] at outlined
    exact body_of_stop? outlined.2.2.1

/-- Every text has the same tree or the same error with backtracking and without it, whether groups
keep their texts or not. -/
theorem parse_backtrack_eq (keeps : Bool) (text : Text) :
    grammar.parse ⟨true, keeps⟩ text = grammar.parse ⟨false, keeps⟩ text :=
  neverForks.parse_eq keeps text

end Parlance.Arithmetic
