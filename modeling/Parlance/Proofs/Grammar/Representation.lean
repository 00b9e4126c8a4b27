import Parlance.Arithmetic.Language
import Parlance.Proofs.Grammar.Resolution

/-!
# What a resolved grammar represents

A resolved grammar has one term for every term that the description defines, reached from the root
or not. Names and numbers belong together one to one, every number in a list is that of a term, and
the terms have the shapes and the properties that their definitions write down.
-/

namespace Parlance

/-- The term is the one that the definition writes down: a token with its marker, or a group with
its two markers. All numbers in its lists are those of terms. -/
structure Grammar.Renders (grammar : Grammar) (definition : TermDefinition) (term : Term) :
    Prop where
  isToken_iff : term.isToken = true ↔ definition.entity.isSome = true
  entity : term.flags.entity = term.isToken
  token : term.isToken = true → term.stop? = none ∧ term.subgroups = [] ∧
    ∃ marker, definition.entity = some marker ∧ marker.matcher = .ok term.start
  group : term.isToken = false → ∃ opening closing stop, definition.start = some opening ∧
    opening.matcher = .ok term.start ∧ definition.stop = some closing ∧
    closing.matcher = .ok stop ∧ term.stop? = some stop
  keeps : term.flags.samePostgroups = definition.samePostgroups
  subgroups : ∀ id ∈ term.subgroups, id < grammar.terms.length
  postgroups : ∀ ids, term.postgroups = some ids → ∀ id ∈ ids, id < grammar.terms.length

/-- The grammar has the terms of the description and no others, with one number for each name. -/
structure Grammar.Represents (grammar : Grammar) (spec : Spec) : Prop where
  once : ∀ name definition, spec.definitions.get? name = some (.term definition) →
    ∃! id, (grammar.term? id).map Term.name = some name
  idOf?_iff : ∀ name id, grammar.idOf? name = some id ↔
    ∃ term, grammar.term? id = some term ∧ term.name = name
  numbered_iff : ∀ name, (∃ id, grammar.idOf? name = some id) ↔
    ∃ definition, spec.definitions.get? name = some (.term definition)
  named : ∀ id < grammar.terms.length, ∃! name, grammar.idOf? name = some id
  renders : ∀ id term, grammar.term? id = some term → ∃ definition,
    spec.definitions.get? term.name = some (.term definition) ∧ grammar.Renders definition term
  root : ∀ id ∈ grammar.root, id < grammar.terms.length
  aether : ∀ id, grammar.aether = some id → id < grammar.terms.length
  aether_iff : ∀ id, grammar.aether = some id ↔
    ∃ name, spec.aether = some name ∧ grammar.idOf? name = some id
  isAether_iff : ∀ id term, grammar.term? id = some term →
    (term.flags.aether = true ↔ spec.aether = some term.name)

namespace Spec.Resolved

variable {spec : Spec} {grammar : Grammar} {term : Term}

/-- The term of a number is the one that the definition of its name writes down. -/
theorem renders (resolved : spec.Resolved grammar) {id : TermId}
    (found : grammar.term? id = some term) : ∃ definition,
      spec.definitions.get? term.name = some (.term definition) ∧
        grammar.Renders definition term := by
  obtain ⟨_, ⟨definition, defined, makes, _⟩, refers⟩ := resolved.of_term? found
  refine ⟨definition, defined, ?_, ?_, ?_, ?_, ?_, refers.subgroups, refers.postgroups⟩
  · cases makes <;> simp [Term.isToken, *]
  · cases makes <;> simp [Term.isToken, *]
  · intro isToken
    cases makes with
    | token marker entity _ _ _ start body _ _ =>
        exact ⟨by simp [Term.stop?, body], by simp [Term.subgroups, body], marker, entity, start⟩
    | group _ _ _ _ _ _ _ _ _ _ body _ _ => simp [Term.isToken, body] at isToken
  · intro isToken
    cases makes with
    | token _ _ _ _ _ _ body _ _ => simp [Term.isToken, body] at isToken
    | group opening closing stop _ _ starts stops _ start stopMade body _ _ =>
        exact ⟨opening, closing, stop, starts, start, stops, stopMade, by simp [Term.stop?, body]⟩
  · cases makes <;> assumption

/-- The term between tokens is the one of its name. -/
theorem aether_eq_some_iff (resolved : spec.Resolved grammar) {id : TermId} :
    grammar.aether = some id ↔
      ∃ name, spec.aether = some name ∧ grammar.idOf? name = some id := by
  have same := resolved.aether
  cases given : grammar.aether <;> cases named : spec.aether <;> simp_all

end Spec.Resolved

/-- A description that resolves is represented by its grammar, whatever cycles it has. -/
theorem Spec.represents_of_resolve {spec : Spec} {grammar : Grammar}
    (resolved : spec.resolve = .ok grammar) : grammar.Represents spec := by
  have resolved := resolved_of_resolve resolved
  have below {name : String} {id : TermId} (given : grammar.idOf? name = some id) :
      id < grammar.terms.length := by
    simpa using resolved.arena.below name id given
  refine
    { once := ?_
      idOf?_iff := fun name id => resolved.idOf?_eq_some_iff
      numbered_iff := ?_
      named := ?_
      renders := fun id term => resolved.renders
      root := resolved.root
      aether := ?_
      aether_iff := fun id => resolved.aether_eq_some_iff
      isAether_iff := ?_ }
  · intro name definition defined
    obtain ⟨id, given⟩ := resolved.numbered name definition defined
    have numbered (other : TermId) :
        (grammar.term? other).map Term.name = some name ↔ grammar.idOf? name = some other := by
      rw [resolved.idOf?_eq_some_iff, Option.map_eq_some_iff]
    refine ⟨id, (numbered id).2 given, fun other found => ?_⟩
    rw [(numbered other).1 found] at given
    cases given
    rfl
  · intro name
    constructor
    · rintro ⟨id, given⟩
      exact resolved.arena.defined name id given
    · rintro ⟨definition, defined⟩
      exact resolved.numbered name definition defined
  · intro id bound
    obtain ⟨name, given⟩ := resolved.arena.named id (by simpa using bound)
    exact ⟨name, given, fun other again => resolved.arena.apart other name id again given⟩
  · intro id chosen
    obtain ⟨name, _, given⟩ := resolved.aether_eq_some_iff.1 chosen
    exact below given
  · intro id term found
    have given := (resolved.of_term? found).1
    rw [resolved.marked id term found, resolved.aether_eq_some_iff]
    constructor
    · rintro ⟨name, named, numbered⟩
      rw [named, resolved.arena.apart name term.name id numbered given]
    · exact fun named => ⟨term.name, named, given⟩

theorem Arithmetic.grammar_represents : Arithmetic.grammar.Represents Arithmetic.spec :=
  Spec.represents_of_resolve Arithmetic.resolve_spec

end Parlance
