import Parlance.Proofs.Grammar.Resolution

/-!
# Why resolution fails

Every error of resolution names something that is wrong with the description, so a description with
nothing wrong resolves. What the phrases mention that neither the root nor a term leads to plays no
part in it.
-/

namespace Parlance

/-- The root and the term between tokens are defined as they should be, and so is every term. -/
structure Spec.WellFormed (spec : Spec) : Prop where
  root : spec.definitions.contains spec.root = true
  aether : ∀ name, spec.aether = some name →
    ∃ definition, spec.definitions.get? name = some (.term definition)
  shaped : ∀ name definition, spec.definitions.get? name = some (.term definition) →
    definition.WellShaped
  ready : ∀ name definition, spec.definitions.get? name = some (.term definition) →
    ∀ marker ∈ definition.markers, ∃ matcher, marker.matcher = .ok matcher

namespace Spec

variable {spec : Spec} {grammar : Grammar}

theorem contains_iff {name : String} :
    spec.definitions.contains name = true ↔ spec.definitions.get? name ≠ none := by
  rw [Dictionary.contains, Option.isSome_iff_ne_none]

/-- A well-formed description resolves if what the visited names mention is defined. -/
theorem WellFormed.resolves (wellFormed : spec.WellFormed)
    (mentions : ∀ referrer name, spec.Visits referrer → spec.Mentions referrer name →
      spec.definitions.contains name = true) : ∃ grammar, spec.resolve = .ok grammar := by
  cases outcome : spec.resolve with
  | ok grammar => exact ⟨grammar, rfl⟩
  | error fault =>
      exfalso
      cases warrants_of_resolve outcome with
      | unresolved undefined visited mentioned =>
          exact contains_iff.1 (mentions _ _ visited mentioned) undefined
      | unresolvedAether undefined aether =>
          obtain ⟨definition, defined⟩ := wellFormed.aether _ aether
          rw [undefined] at defined
          cases defined
      | noRoot undefined => exact contains_iff.1 wellFormed.root undefined
      | invalidTerm defined has => exact (wellFormed.shaped _ _ defined).not_hasDefect _ has
      | aetherIsPhrase aether defined =>
          obtain ⟨definition, same⟩ := wellFormed.aether _ aether
          rw [defined] at same
          cases same
      | invalidPattern defined marker_mem refused =>
          obtain ⟨matcher, ready⟩ := wellFormed.ready _ _ defined _ marker_mem
          rw [refused] at ready
          cases ready

/-- A description that resolves is well formed. -/
theorem Resolved.wellFormed (resolved : spec.Resolved grammar) : spec.WellFormed where
  root := resolved.rooted spec.root .here
  aether name aether := by
    have same := resolved.aether
    rw [aether, Option.map_some] at same
    cases given : grammar.aether with
    | none => simp [given] at same
    | some id =>
        rw [given, Option.map_some, Option.some_inj] at same
        exact resolved.arena.defined name id same
  shaped name definition defined := by
    obtain ⟨_, _, _, _, makes, _⟩ := resolved.exists_term defined
    cases makes with
    | token marker entity noStart noStop noSubgroups _ _ _ =>
        exact .inl ⟨by simp [entity], noStart, noStop, noSubgroups⟩
    | group opening closing _ _ noEntity starts stops lists _ _ _ _ =>
        exact .inr ⟨noEntity, by simp [starts], by simp [stops], lists⟩
  ready name definition defined marker member := by
    obtain ⟨_, _, _, _, makes, _⟩ := resolved.exists_term defined
    have ready := makes.matchers.imp fun marker matcher made =>
      (⟨⟨matcher, made⟩, trivial⟩ : (∃ matcher, marker.matcher = .ok matcher) ∧ True)
    exact ((List.forall₂_and_left _ _).1 ready).1 marker member

/-- Resolution fails for a cause only. If the description is well formed and all that its
definitions mention is defined, it resolves, whatever cycles it has. Every error is warranted by the
description. A referrer that is none of its names is never blamed, other than for the term between
tokens. -/
theorem resolve_fails_for_cause (spec : Spec) :
    (spec.WellFormed → (∀ referrer name, spec.Mentions referrer name →
        spec.definitions.contains name = true) → ∃ grammar, spec.resolve = .ok grammar) ∧
      (∀ fault, spec.resolve = .error fault → spec.Warrants fault) ∧
      ∀ name, ∀ referrer ∈ ["<root>", "<spec>", "<placeholder>"],
        spec.definitions.get? referrer = none →
          spec.resolve ≠ .error (.unresolvedReference name referrer) := by
  refine ⟨?_, fun fault => warrants_of_resolve, ?_⟩
  · intro wellFormed mentions
    exact wellFormed.resolves fun referrer name _ => mentions referrer name
  · intro name referrer among undefined failed
    cases warrants_of_resolve failed with
    | unresolved _ _ mentions =>
        obtain ⟨definition, defined, _⟩ := mentions
        rw [undefined] at defined
        cases defined
    | unresolvedAether => simp at among

/-- A group inside itself, by a phrase that is a member of itself. -/
def nested : Spec :=
  (rootedAt "list").phrase "list" ["list", "group"]
    |>.term "group" (.group (.literal ['(']) (.literal [')']) ["list", "group"])

theorem get?_nested (name : String) : nested.definitions.get? name =
    if name = "group" then some (.term (.group (.literal ['(']) (.literal [')']) ["list", "group"]))
    else if name = "list" then some (.phrase ["list", "group"]) else none := by
  rw [nested, term, Dictionary.get?_insert, phrase, Dictionary.get?_insert]
  rfl

theorem nested_wellFormed : nested.WellFormed where
  root := by decide +kernel
  aether name aether := by cases aether
  shaped name definition defined := by
    rw [get?_nested] at defined
    split_ifs at defined <;> cases defined
    exact .inr ⟨rfl, rfl, rfl, rfl⟩
  ready name definition defined marker member := by
    rw [get?_nested] at defined
    split_ifs at defined <;> cases defined
    have markers : marker = .literal ['('] ∨ marker = .literal [')'] := by
      simpa [TermDefinition.markers, TermDefinition.group] using member
    rcases markers with rfl | rfl <;> exact ⟨_, rfl⟩

theorem nested_mentions (referrer name : String) (mentions : nested.Mentions referrer name) :
    nested.definitions.contains name = true := by
  obtain ⟨definition, defined, among⟩ := mentions
  have names : name = "list" ∨ name = "group" := by
    rw [get?_nested] at defined
    split_ifs at defined <;> cases defined <;>
      simpa [Definition.mentions, TermDefinition.mentions, TermDefinition.group] using among
  rcases names with rfl | rfl <;> decide +kernel

/-- The cycles of the nested group do not keep it from resolving. -/
theorem nested_resolves : ∃ grammar, nested.resolve = .ok grammar :=
  (resolve_fails_for_cause nested).1 nested_wellFormed nested_mentions

/-- A description resolves exactly when it is well formed and all that its visited names mention is
defined. -/
theorem resolves_iff (spec : Spec) :
    (∃ grammar, spec.resolve = .ok grammar) ↔
      spec.WellFormed ∧ ∀ referrer name, spec.Visits referrer → spec.Mentions referrer name →
        spec.definitions.contains name = true := by
  constructor
  · rintro ⟨grammar, resolved⟩
    have resolved := resolved_of_resolve resolved
    exact ⟨resolved.wellFormed, fun referrer name => resolved.contains_of_mentions⟩
  · rintro ⟨wellFormed, mentions⟩
    exact wellFormed.resolves mentions

/-- A token at the root, and a phrase that nothing mentions. -/
def idlePhrase : Spec :=
  (rootedAt "token").term "token" (.token (.literal ['x'])) |>.phrase "idle" ["missing"]

/-- Not everything that a description mentions is defined if it resolves: a phrase that neither the
root nor a term leads to may mention what is not. -/
theorem not_contains_of_mentions :
    ¬∀ (spec : Spec) (grammar : Grammar), spec.resolve = .ok grammar → ∀ referrer name,
      spec.Mentions referrer name → spec.definitions.contains name = true := by
  intro claimed
  have resolves : idlePhrase.resolve.toOption.isSome = true := by decide +kernel
  obtain ⟨grammar, resolves⟩ := Option.isSome_iff_exists.1 resolves
  have idle : idlePhrase.definitions.get? "idle" = some (.phrase ["missing"]) := by
    decide +kernel
  have contains := claimed idlePhrase grammar (toOption_eq_some_iff.1 resolves) "idle" "missing"
    ⟨_, idle, List.mem_singleton.2 rfl⟩
  exact absurd contains (by decide +kernel)

end Spec

end Parlance
