import Parlance.Arithmetic.Language
import Parlance.Proofs.Grammar.Listing
import Parlance.Proofs.Tree.Renumbering

/-!
# Further definitions

A description extends another one if it has the same root, the same term between tokens and all of
its definitions. The terms of the one then correspond by their names to terms of the other, under
other numbers perhaps, and both parse every text alike.
-/

namespace Parlance

/-- The description has the root, the term between tokens and all definitions of the other one. What
else it defines has names of its own. -/
structure Spec.Extends (extended spec : Spec) : Prop where
  root : extended.root = spec.root
  aether : extended.aether = spec.aether
  includes : extended.Includes spec

/-- A definition under a fresh name extends a description. -/
theorem Spec.extends_term {spec : Spec} {name : String} (fresh : spec.definitions.get? name = none)
    (definition : TermDefinition) : (spec.term name definition).Extends spec where
  root := rfl
  aether := rfl
  includes other given defined := by
    rw [term, Dictionary.get?_insert, if_neg, defined]
    rintro rfl
    rw [fresh] at defined
    cases defined

/-- The numbers have one name in the two grammars. -/
def Grammar.SameName (grammar other : Grammar) (id otherId : TermId) : Prop :=
  ∃ name, grammar.idOf? name = some id ∧ other.idOf? name = some otherId

namespace Spec.Extends

open Resolution

variable {spec extended : Spec} {grammar other : Grammar} {names : List String}
  {ids otherIds : List TermId}

/-- Names written down in the description stand for corresponding candidates. -/
theorem forall₂_sameName (extension : extended.Extends spec)
    (flattens : grammar.arena.Flattens spec names ids)
    (otherFlattens : other.arena.Flattens extended names otherIds) :
    List.Forall₂ (grammar.SameName other) ids otherIds := by
  obtain ⟨terms, lists, numbers⟩ := flattens
  obtain ⟨otherTerms, otherLists, otherNumbers⟩ := otherFlattens
  obtain rfl := (lists.mono extension.includes).unique otherLists
  clear lists otherLists
  induction numbers generalizing otherIds with
  | nil =>
      cases otherNumbers
      exact .nil
  | cons given _ ih =>
      cases otherNumbers with
      | cons otherGiven behind => exact .cons ⟨_, given, otherGiven⟩ (ih behind)

/-- Terms made from one definition, with corresponding candidates, are alike. -/
theorem term_alike {definition : TermDefinition} {term otherTerm : Term}
    (named : term.name = otherTerm.name) (makes : definition.Makes term)
    (otherMakes : definition.Makes otherTerm)
    (subgroups : List.Forall₂ (grammar.SameName other) term.subgroups otherTerm.subgroups)
    (postgroups : Option.Rel (List.Forall₂ (grammar.SameName other)) term.postgroups
      otherTerm.postgroups) : term.Alike (grammar.SameName other) otherTerm := by
  cases makes with
  | token marker entity _ _ _ start body keeps =>
      cases otherMakes with
      | token _ again _ _ _ otherStart otherBody otherKeeps =>
          cases entity.symm.trans again
          refine ⟨named, Except.ok.inj (start.symm.trans otherStart), ?_, postgroups,
            keeps.trans otherKeeps.symm⟩
          rw [body, otherBody]
          exact .token
      | group _ _ _ _ noEntity => simp [entity] at noEntity
  | group opening closing stop inside noEntity starts stops _ start stopMade body keeps =>
      cases otherMakes with
      | token _ entity => simp [entity] at noEntity
      | group _ _ otherStop others _ startsAgain stopsAgain _ otherStart otherStopMade otherBody
          otherKeeps =>
          cases starts.symm.trans startsAgain
          cases stops.symm.trans stopsAgain
          cases Except.ok.inj (stopMade.symm.trans otherStopMade)
          refine ⟨named, Except.ok.inj (start.symm.trans otherStart), ?_, postgroups,
            keeps.trans otherKeeps.symm⟩
          rw [Term.subgroups, Term.subgroups, body, otherBody] at subgroups
          rw [body, otherBody]
          exact .group subgroups

/-- The grammars of a description and of an extension of it are alike up to numbers. -/
theorem alike (extension : extended.Extends spec) (resolved : spec.resolve = .ok grammar)
    (otherResolved : extended.resolve = .ok other) :
    grammar.Alike (grammar.SameName other) other where
  rootName := by
    rw [(lists_of_resolve resolved).1, (lists_of_resolve otherResolved).1, extension.root]
  terms id otherId sameName := by
    obtain ⟨name, given, otherGiven⟩ := sameName
    obtain ⟨term, found, rfl⟩ := (resolved_of_resolve resolved).idOf?_eq_some_iff.1 given
    obtain ⟨otherTerm, otherFound, named⟩ :=
      (resolved_of_resolve otherResolved).idOf?_eq_some_iff.1 otherGiven
    refine ⟨term, otherTerm, found, otherFound, ?_⟩
    obtain ⟨_, ⟨definition, defined, makes, _⟩, _⟩ := (resolved_of_resolve resolved).of_term? found
    obtain ⟨_, ⟨again, definedAgain, otherMakes, _⟩, _⟩ :=
      (resolved_of_resolve otherResolved).of_term? otherFound
    rw [named, extension.includes _ _ defined] at definedAgain
    cases definedAgain
    obtain ⟨listed, definedHere, subgroups, postgroups⟩ := (lists_of_resolve resolved).2.2 id term found
    obtain ⟨otherListed, definedThere, otherSubgroups, otherPostgroups⟩ :=
      (lists_of_resolve otherResolved).2.2 otherId otherTerm otherFound
    cases defined.symm.trans definedHere
    rw [named, extension.includes _ _ defined] at definedThere
    cases definedThere
    refine term_alike named.symm makes otherMakes
      (extension.forall₂_sameName subgroups otherSubgroups) ?_
    generalize definition.postgroups = written at postgroups otherPostgroups
    generalize term.postgroups = given at postgroups
    generalize otherTerm.postgroups = otherGiven at otherPostgroups
    cases postgroups with
    | none =>
        cases otherPostgroups
        exact .none
    | some flattens =>
        cases otherPostgroups with
        | some otherFlattens => exact .some (extension.forall₂_sameName flattens otherFlattens)
  root := by
    have otherRoot := (lists_of_resolve otherResolved).2.1
    rw [extension.root] at otherRoot
    exact extension.forall₂_sameName (lists_of_resolve resolved).2.1 otherRoot
  aether := by
    have chosen := (resolved_of_resolve resolved).aether
    have otherChosen := (resolved_of_resolve otherResolved).aether
    rw [extension.aether] at otherChosen
    cases named : spec.aether with
    | none =>
        rw [named, Option.map_none, eq_comm, Option.map_eq_none_iff] at chosen otherChosen
        rw [chosen, otherChosen]
        exact .none
    | some name =>
        rw [named, Option.map_some, eq_comm, Option.map_eq_some_iff] at chosen otherChosen
        obtain ⟨id, skips, given⟩ := chosen
        obtain ⟨otherId, otherSkips, otherGiven⟩ := otherChosen
        rw [skips, otherSkips]
        exact .some ⟨name, given.symm, otherGiven.symm⟩

end Spec.Extends

/-- However many further definitions a description has, it parses every text alike: with any options
it gives the same tree or the same error. Whatever the description mentions it defines, so nothing
that is added can be mentioned by it. -/
theorem Spec.parse_ignores_extension {spec extended : Spec} {grammar other : Grammar}
    (extension : extended.Extends spec) (resolved : spec.resolve = .ok grammar)
    (otherResolved : extended.resolve = .ok other) (options : ParseOptions) (text : Text) :
    other.parse options text = grammar.parse options text :=
  ((extension.alike resolved otherResolved).parse_eq options text).symm

/-- A term whose name comes before the name of the term between tokens takes its number. -/
theorem Arithmetic.parse_ignores_annotation : ∃ other,
    (spec.term "annotation" (.token (literal "#"))).resolve = .ok other ∧
    grammar.idOf? "whitespace" = some 11 ∧ other.idOf? "whitespace" = some 12 ∧
    ∀ options text, other.parse options text = grammar.parse options text := by
  have numbered : ((spec.term "annotation" (.token (literal "#"))).resolve.toOption.bind
      (·.idOf? "whitespace")) = some 12 := by
    decide +kernel
  obtain ⟨other, resolved, number⟩ := Option.bind_eq_some_iff.1 numbered
  have resolved := toOption_eq_some_iff.1 resolved
  have fresh : spec.definitions.get? "annotation" = none := by decide
  exact ⟨other, resolved, by decide +kernel, number,
    Spec.parse_ignores_extension (Spec.extends_term fresh _) resolve_spec resolved⟩

end Parlance
