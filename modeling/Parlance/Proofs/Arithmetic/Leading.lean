import Parlance.Proofs.Arithmetic.Token
import Parlance.Proofs.Tree.Reaching

/-!
# Texts and the nodes they lead to

A text in front of some rest leads from candidates to others through nodes, whatever group it stands
in. Tokens and brackets lead there in one step; texts in a row, with or without a blank between them,
lead on from one another.
-/

namespace Parlance.Arithmetic

/-- The group does not end at a blank. -/
def EndsAtNoBlank (stop : Option Matcher) : Prop :=
  ∀ marker ∈ stop, ∀ rest, marker.match? (' ' :: rest) = none

/-- In any group, behind anything that is skipped in front of it, the text leads from the candidates
to the next ones through nodes with the property. -/
def LeadsTo (candidates : List TermId) (text rest : Text) (next : List TermId)
    (holds : List Node → Prop) : Prop :=
  ∀ stop, EndsAtNoBlank stop → ∀ before gap,
    grammar.Skips false stop candidates before (gap ++ (text ++ rest)) gap (text ++ rest) →
    ∃ nodes there, holds nodes ∧
      grammar.Reaches false stop candidates before (gap ++ (text ++ rest)) nodes next there rest

variable {candidates middle next : List TermId} {name : String} {text others rest : Text}
  {holds holdsBehind : List Node → Prop}

theorem LeadsTo.mono {holdsToo : List Node → Prop} (leads : LeadsTo candidates text rest next holds)
    (wider : ∀ nodes, holds nodes → holdsToo nodes) : LeadsTo candidates text rest next holdsToo := by
  intro stop endsAtNoBlank before gap skips
  obtain ⟨nodes, there, here, reaches⟩ := leads stop endsAtNoBlank before gap skips
  exact ⟨nodes, there, wider nodes here, reaches⟩

/-! ### One node -/

theorem LeadsTo.token (takes : TakesToken candidates name text rest next) :
    LeadsTo candidates text rest next fun nodes =>
      ∃ node, nodes = [node] ∧ node.IsTokenOf name ∧ node.content? = some text := by
  obtain ⟨term, first, rfl, shape, rfl, found⟩ := takes
  intro stop _ before gap skips
  exact ⟨_, _, ⟨_, rfl, ⟨rfl, rfl⟩, rfl⟩, .child skips first (.token shape found) .nothing⟩

/-- No closing bracket is a blank. -/
theorem endsAtNoBlank_of_texts? {stop : Matcher} {closing : Char} (isBlank : closing ≠ ' ')
    (closes : stop.texts? = some [[closing]]) : EndsAtNoBlank (some stop) := by
  rintro _ ⟨⟩ rest
  rw [Matcher.match?_of_texts? closes (by simp)]
  simp [isBlank]

/-- An opening bracket and what fills the group behind it up to its end. -/
theorem LeadsTo.filled (holds : List Node → Prop) {opening closing inside : Text}
    (opens : OpensGroup candidates name opening closing (inside ++ rest))
    (filled : ∀ stop : Matcher, stop.texts? = some [closing] → ∀ before, ∃ children,
      holds children ∧
        grammar.Fills false (some stop) valueIds before (inside ++ rest) children [] closing rest) :
    LeadsTo candidates (opening ++ inside) rest operationIds fun nodes =>
      ∃ node, nodes = [node] ∧ node.IsGroupOf name ∧ holds node.children := by
  obtain ⟨term, stop, first, rfl, shape, closes, after, found⟩ := opens
  intro outer _ before gap skips
  rw [List.append_assoc] at skips ⊢
  obtain ⟨children, here, fills⟩ := filled stop closes (before ++ gap ++ opening)
  have reads : grammar.Reads false (before ++ gap) (opening ++ (inside ++ rest)) term
      (.assembled false term.name (before ++ gap) opening children [] closing) rest :=
    .group shape found fills
  have reaches := Grammar.Reaches.child skips first reads .nothing
  rw [after] at reaches
  refine ⟨_, _, ?_, reaches⟩
  exact ⟨_, rfl, ⟨rfl, rfl⟩, here⟩

theorem match?_of_closing {stop : Matcher} {closing : Char} (closes : stop.texts? = some [[closing]]) :
    stop.match? ([closing] ++ rest) = some [closing] := by
  rw [Matcher.match?_of_texts? closes (by simp)]
  simp

/-- Brackets around a text that leads from values to operations. -/
theorem LeadsTo.group {opening : Text} {closing : Char} {inside : Text}
    (opens : OpensGroup candidates name opening [closing] (inside ++ [closing] ++ rest))
    (isBlank : closing ≠ ' ') (idle : idleAt operationIds closing = true)
    (leads : LeadsTo valueIds inside (closing :: rest) operationIds holds) :
    LeadsTo candidates (opening ++ (inside ++ [closing])) rest operationIds fun nodes =>
      ∃ node, nodes = [node] ∧ node.IsGroupOf name ∧ holds node.children := by
  refine .filled holds opens ?_
  intro stop closes before
  obtain ⟨children, there, here, reaches⟩ :=
    leads (some stop) (endsAtNoBlank_of_texts? isBlank closes) before [] .nothing
  have fills := reaches.fills
    (.closes .nothing (noneStarts_of_idleAt idle rest) (match?_of_closing closes))
  rw [List.append_nil] at fills
  refine ⟨children, here, ?_⟩
  rw [List.append_assoc]
  exact fills

/-- Brackets with nothing between them. -/
theorem LeadsTo.emptyGroup {opening : Text} {closing : Char}
    (opens : OpensGroup candidates name opening [closing] ([closing] ++ rest))
    (idle : idleAt valueIds closing = true) :
    LeadsTo candidates (opening ++ [closing]) rest operationIds fun nodes =>
      ∃ node, nodes = [node] ∧ node.IsGroupOf name ∧ node.children = [] := by
  refine .filled (· = []) opens ?_
  intro stop closes before
  exact ⟨[], rfl, .closes .nothing (noneStarts_of_idleAt idle rest) (match?_of_closing closes)⟩

/-! ### Texts in a row -/

/-- A blank in front of something that can be seen is skipped, where no candidate starts with it. -/
theorem skips_blank {stop : Option Matcher} (endsAtNoBlank : EndsAtNoBlank stop)
    (idle : idleAt candidates ' ' = true) (visible : ∀ char ∈ text.head?, isVisible char = true)
    (before : Text) :
    grammar.Skips false stop candidates before ([' '] ++ text) [' '] text := by
  obtain ⟨_, _, _, _, shaped, _⟩ := patterns_shaped
  obtain ⟨term, pattern, named, shape, isBlank⟩ := exists_shape shaped
  have found : term.start.match? ([' '] ++ text) = some [' '] :=
    Matcher.match?_of_takes shape (takes_blank isBlank toNat_lt_of_isVisible visible) (by simp)
  have isToken : term.body = .token := by
    have outlined : outlineOf term = ⟨"whitespace", none, none, [], none, false⟩ :=
      outlineOf_eq named rfl
    simp only [outlineOf, Outline.mk.injEq, Option.map_eq_none_iff] at outlined
    exact body_of_stop? outlined.2.2.1
  have aether : grammar.aether.bind grammar.term? = some term := by
    rw [grammar_outlined.2.2]
    exact named
  exact .more .nothing (noneStarts_of_idleAt idle text)
    (fun marker ends => endsAtNoBlank marker ends text) aether (.token isToken found)

theorem LeadsTo.append (leads : LeadsTo candidates text (others ++ rest) middle holds)
    (leadsOn : LeadsTo middle others rest next holdsBehind) :
    LeadsTo candidates (text ++ others) rest next fun nodes =>
      ∃ former latter, nodes = former ++ latter ∧ holds former ∧ holdsBehind latter := by
  intro stop endsAtNoBlank before gap skips
  rw [List.append_assoc] at skips ⊢
  obtain ⟨former, there, here, reaches⟩ := leads stop endsAtNoBlank before gap skips
  obtain ⟨latter, behind, hereBehind, reachesOn⟩ :=
    leadsOn stop endsAtNoBlank there [] .nothing
  exact ⟨_, behind, ⟨former, latter, rfl, here, hereBehind⟩, reaches.trans reachesOn⟩

/-- Texts with a blank between them. -/
theorem LeadsTo.appendBlank (leads : LeadsTo candidates text (' ' :: others ++ rest) middle holds)
    (idle : idleAt middle ' ' = true)
    (visible : ∀ char ∈ (others ++ rest).head?, isVisible char = true)
    (leadsOn : LeadsTo middle others rest next holdsBehind) :
    LeadsTo candidates (text ++ ' ' :: others) rest next fun nodes =>
      ∃ former latter, nodes = former ++ latter ∧ holds former ∧ holdsBehind latter := by
  intro stop endsAtNoBlank before gap skips
  rw [List.append_assoc] at skips ⊢
  obtain ⟨former, there, here, reaches⟩ := leads stop endsAtNoBlank before gap skips
  obtain ⟨latter, behind, hereBehind, reachesOn⟩ := leadsOn stop endsAtNoBlank there [' ']
    (skips_blank endsAtNoBlank idle visible there)
  exact ⟨_, behind, ⟨former, latter, rfl, here, hereBehind⟩, reaches.trans reachesOn⟩

end Parlance.Arithmetic
