import Parlance.Grammar.Resolution

/-!
# References in a description

What the definitions of a description mention, which of them resolution visits, and what each of its
errors says about the description.
-/

namespace Parlance

/-- The markers that the definition writes down. -/
def TermDefinition.markers (definition : TermDefinition) : List Marker :=
  definition.entity.toList ++ definition.start.toList ++ definition.stop.toList

/-- The names in the lists of the definition. -/
def TermDefinition.mentions (definition : TermDefinition) : List String :=
  definition.postgroups.getD [] ++ definition.subgroups.getD []

/-- The names in the lists of the definition. -/
def Definition.mentions : Definition → List String
  | term definition => definition.mentions
  | phrase names => names

/-- The definition is a token without markers and subgroups of a group, or a group with all of
them. -/
def TermDefinition.WellShaped (definition : TermDefinition) : Prop :=
  (definition.entity.isSome = true ∧ definition.start = none ∧ definition.stop = none ∧
      definition.subgroups = none) ∨
    (definition.entity = none ∧ definition.start.isSome = true ∧ definition.stop.isSome = true ∧
      definition.subgroups.isSome = true)

/-- The definition of a term has the defect. -/
def TermDefinition.HasDefect (definition : TermDefinition) : Defect → Prop
  | .tokenWithMarkers =>
      definition.entity.isSome = true ∧
        (definition.start.isSome = true ∨ definition.stop.isSome = true)
  | .tokenWithSubgroups => definition.entity.isSome = true ∧ definition.subgroups.isSome = true
  | .groupWithoutMarkers =>
      definition.entity = none ∧ (definition.start = none ∨ definition.stop = none)
  | .groupWithoutSubgroups => definition.entity = none ∧ definition.subgroups = none
  | .aetherIsPhrase => False

theorem TermDefinition.WellShaped.not_hasDefect {definition : TermDefinition}
    (shaped : definition.WellShaped) (defect : Defect) : ¬definition.HasDefect defect := by
  simp only [WellShaped, Option.isSome_iff_ne_none] at shaped
  cases defect <;> rcases shaped with shape | shape <;>
    simp [HasDefect, Option.isSome_iff_ne_none, shape]

namespace Spec

variable {spec : Spec} {name referrer : String}

/-- The definition of the referrer mentions the name. -/
def Mentions (spec : Spec) (referrer name : String) : Prop :=
  ∃ definition, spec.definitions.get? referrer = some definition ∧ name ∈ definition.mentions

/-- Resolution visits the root and all terms, and whatever a visited name mentions. -/
inductive Visits (spec : Spec) : String → Prop where
  | root : Visits spec spec.root
  | term {name : String} {definition : TermDefinition}
      (defined : spec.definitions.get? name = some (.term definition)) : Visits spec name
  | mentioned {referrer name : String} (visited : Visits spec referrer)
      (mentions : spec.Mentions referrer name) : Visits spec name

/-- The latter name is met from the former one by entering phrases. -/
inductive Enters (spec : Spec) (name : String) : String → Prop where
  | here : Enters spec name name
  | member {phrase met : String} {members : List String} (entered : Enters spec name phrase)
      (defined : spec.definitions.get? phrase = some (.phrase members)) (member : met ∈ members) :
      Enters spec name met

/-- All that is met from the name by entering phrases is defined. -/
def Grounded (spec : Spec) (name : String) : Prop :=
  ∀ met, spec.Enters name met → spec.definitions.contains met = true

theorem Enters.trans {phrase met : String} {members : List String}
    (defined : spec.definitions.get? phrase = some (.phrase members)) (member : name ∈ members)
    (enters : spec.Enters name met) : spec.Enters phrase met := by
  induction enters with
  | here => exact .member .here defined member
  | member _ inside among ih => exact .member ih inside among

/-- The members of a grounded phrase are grounded. -/
theorem Grounded.member {members : List String} (grounded : spec.Grounded referrer)
    (defined : spec.definitions.get? referrer = some (.phrase members)) (member : name ∈ members) :
    spec.Grounded name :=
  fun met enters => grounded met (enters.trans defined member)

/-- If what the root and the terms mention is grounded, then so is all that is mentioned by a
visited name. -/
theorem Visits.grounded (rooted : spec.Grounded spec.root)
    (terms : ∀ name definition, spec.definitions.get? name = some (.term definition) →
      ∀ mentioned ∈ definition.mentions, spec.Grounded mentioned)
    (visited : spec.Visits referrer) (mentions : spec.Mentions referrer name) :
    spec.Grounded name := by
  -- A phrase is visited because something visited mentions it, unless it is the root.
  have opened {referrer name : String} (grounded : spec.Grounded referrer)
      (mentions : spec.Mentions referrer name) : spec.Grounded name := by
    obtain ⟨definition | members, defined, among⟩ := mentions
    · exact terms referrer definition defined name among
    · exact grounded.member defined among
  induction visited generalizing name with
  | root => exact opened rooted mentions
  | term defined =>
      obtain ⟨definition, same, among⟩ := mentions
      rw [defined] at same
      cases same
      exact terms _ _ defined name among
  | mentioned _ mentioned ih => exact opened (ih mentioned) mentions

/-- What the error says about the description is so. -/
inductive Warrants (spec : Spec) : ResolveError → Prop where
  | unresolved {name referrer : String} (undefined : spec.definitions.get? name = none)
      (visited : spec.Visits referrer) (mentions : spec.Mentions referrer name) :
      Warrants spec (.unresolvedReference name referrer)
  | unresolvedAether {name : String} (undefined : spec.definitions.get? name = none)
      (aether : spec.aether = some name) : Warrants spec (.unresolvedReference name "<aether>")
  | noRoot (undefined : spec.definitions.get? spec.root = none) : Warrants spec (.noRoot spec.root)
  | invalidTerm {name : String} {definition : TermDefinition} {defect : Defect}
      (defined : spec.definitions.get? name = some (.term definition))
      (has : definition.HasDefect defect) : Warrants spec (.invalidTerm name defect)
  | aetherIsPhrase {name : String} {members : List String} (aether : spec.aether = some name)
      (defined : spec.definitions.get? name = some (.phrase members)) :
      Warrants spec (.invalidTerm name .aetherIsPhrase)
  | invalidPattern {name : String} {definition : TermDefinition} {marker : Marker}
      {flaw : Pattern.Flaw} (defined : spec.definitions.get? name = some (.term definition))
      (marker_mem : marker ∈ definition.markers) (refused : marker.matcher = .error flaw) :
      Warrants spec (.invalidPattern name flaw)

end Spec

end Parlance
