import Mathlib.Data.List.Forall2
import Parlance.Proofs.Grammar.Reference

/-!
# Arenas

What holds of the numbers and slots while terms are being resolved, with the slots of the terms that
are still under way open. Names are numbered one to one, and a complete slot holds a term made from
the definition of its name, all of whose numbers have been given out. While a term is completed,
whatever cycles the description has, complete slots are only added behind the present ones.
-/

namespace Parlance

/-- The term has the shape, the markers and the flags that the definition writes down. -/
inductive TermDefinition.Makes (definition : TermDefinition) (term : Term) : Prop where
  | token (marker : Marker) (entity : definition.entity = some marker)
      (noStart : definition.start = none) (noStop : definition.stop = none)
      (noSubgroups : definition.subgroups = none) (start : marker.matcher = .ok term.start)
      (body : term.body = .token) (keeps : term.samePostgroups = definition.samePostgroups)
      (flagged : term.flags.entity = true)
  | group (opening closing : Marker) (stop : Matcher) (subgroups : List TermId)
      (noEntity : definition.entity = none) (starts : definition.start = some opening)
      (stops : definition.stop = some closing) (lists : definition.subgroups.isSome = true)
      (start : opening.matcher = .ok term.start) (stopMade : closing.matcher = .ok stop)
      (body : term.body = .group stop subgroups)
      (keeps : term.samePostgroups = definition.samePostgroups)
      (unflagged : term.flags.entity = false)

/-- The matchers of the term, the one that starts it first. -/
def Term.matchers (term : Term) : List Matcher :=
  term.start :: term.stop?.toList

/-- The matchers of a term are the markers of its definition, made ready. -/
theorem TermDefinition.Makes.matchers {definition : TermDefinition} {term : Term}
    (makes : definition.Makes term) :
    List.Forall₂ (fun marker matcher => marker.matcher = .ok matcher) definition.markers
      term.matchers := by
  cases makes with
  | token marker entity noStart noStop _ start body _ _ =>
      simpa [markers, Term.matchers, Term.stop?, entity, noStart, noStop, body] using start
  | group opening closing stop subgroups noEntity starts stops _ start stopMade body _ _ =>
      simpa [markers, Term.matchers, Term.stop?, noEntity, starts, stops, body] using
        ⟨start, stopMade⟩

/-- The term is made from the definition of its name, which mentions only grounded names. -/
def Spec.Makes (spec : Spec) (term : Term) : Prop :=
  ∃ definition, spec.definitions.get? term.name = some (.term definition) ∧
    definition.Makes term ∧ ∀ name ∈ definition.mentions, spec.Grounded name

/-- A term that is marked as the one between tokens is still made from its definition. -/
theorem Spec.Makes.markAether {spec : Spec} {term : Term} (made : spec.Makes term) :
    spec.Makes term.markAether := by
  obtain ⟨definition, defined, makes, grounded⟩ := made
  refine ⟨definition, defined, ?_, grounded⟩
  cases makes with
  | token marker entity noStart noStop noSubgroups start body keeps flagged =>
      exact .token marker entity noStart noStop noSubgroups start body keeps flagged
  | group opening closing stop subgroups noEntity starts stops lists start stopMade body keeps
      unflagged =>
      exact .group opening closing stop subgroups noEntity starts stops lists start stopMade body
        keeps unflagged

/-- All numbers in the lists of the term are below the bound. -/
structure Term.RefersBelow (term : Term) (bound : Nat) : Prop where
  subgroups : ∀ id ∈ term.subgroups, id < bound
  postgroups : ∀ ids, term.postgroups = some ids → ∀ id ∈ ids, id < bound

theorem Term.RefersBelow.mono {term : Term} {bound greater : Nat}
    (refers : term.RefersBelow bound) (le : bound ≤ greater) : term.RefersBelow greater where
  subgroups id member := Nat.lt_of_lt_of_le (refers.subgroups id member) le
  postgroups ids given id member := Nat.lt_of_lt_of_le (refers.postgroups ids given id member) le

namespace Resolution

variable {spec : Spec} {name : String} {arena former middle latter : Arena} {walk : Walk}

/-- Names of terms are numbered one to one, up to the number of slots, and complete slots hold terms
made from the definitions of their names. -/
structure Arena.Valid (spec : Spec) (arena : Arena) : Prop where
  defined : ∀ name id, arena.idOf? name = some id →
    ∃ definition, spec.definitions.get? name = some (.term definition)
  below : ∀ name id, arena.idOf? name = some id → id < arena.slots.length
  apart : ∀ name other id, arena.idOf? name = some id → arena.idOf? other = some id → name = other
  named : ∀ id < arena.slots.length, ∃ name, arena.idOf? name = some id
  complete : ∀ (id : TermId) (term : Term), arena.slots[id]? = some (some term) →
    arena.idOf? term.name = some id ∧ spec.Makes term ∧ term.RefersBelow arena.slots.length

/-- The latter arena is a valid one that has complete slots behind those of the former one, none of
them marked as the one between tokens, and has its numbers. -/
structure Arena.Grows (spec : Spec) (former latter : Arena) : Prop where
  valid : latter.Valid spec
  slots : ∃ added, latter.slots = former.slots ++ added ∧
    ∀ slot ∈ added, ∃ term, slot = some term ∧ term.flags.aether = false
  names : ∀ name id, former.idOf? name = some id → latter.idOf? name = some id

namespace Arena

theorem idOf?_reserve (arena : Arena) (name other : String) :
    (arena.reserve name).idOf? other =
      if other = name then some arena.slots.length else arena.idOf? other :=
  arena.names.get?_insert name other _

@[simp] theorem slots_reserve (arena : Arena) (name : String) :
    (arena.reserve name).slots = arena.slots ++ [none] := rfl

@[simp] theorem idOf?_fill (arena : Arena) (id : TermId) (term : Term) (name : String) :
    (arena.fill id term).idOf? name = arena.idOf? name := rfl

theorem valid_empty (spec : Spec) : empty.Valid spec := by
  constructor <;> intros <;> contradiction

/-- Reserving a number for the name of a term keeps an arena valid. -/
theorem Valid.reserve (valid : arena.Valid spec) (new : arena.idOf? name = none)
    {definition : TermDefinition} (defined : spec.definitions.get? name = some (.term definition)) :
    (arena.reserve name).Valid spec where
  defined other id numbered := by
    rw [idOf?_reserve] at numbered
    split at numbered
    · next same => exact ⟨definition, same ▸ defined⟩
    · exact valid.defined other id numbered
  below other id numbered := by
    rw [idOf?_reserve] at numbered
    rw [slots_reserve, List.length_append, List.length_singleton]
    split at numbered
    · cases numbered
      exact Nat.lt_succ_self _
    · exact Nat.lt_succ_of_lt (valid.below other id numbered)
  apart other third id first second := by
    rw [idOf?_reserve] at first second
    split at first <;> split at second
    · next same sameAgain => exact same.trans sameAgain.symm
    · cases first
      exact absurd (valid.below third _ second) (Nat.lt_irrefl _)
    · cases second
      exact absurd (valid.below other _ first) (Nat.lt_irrefl _)
    · exact valid.apart other third id first second
  named id below := by
    rw [slots_reserve, List.length_append, List.length_singleton] at below
    rcases Nat.lt_succ_iff_lt_or_eq.1 below with below | rfl
    · obtain ⟨other, numbered⟩ := valid.named id below
      refine ⟨other, ?_⟩
      rw [idOf?_reserve, if_neg, numbered]
      rintro rfl
      rw [new] at numbered
      cases numbered
    · exact ⟨name, by rw [idOf?_reserve, if_pos rfl]⟩
  complete id term held := by
    rw [slots_reserve, List.getElem?_append] at held
    split at held
    · obtain ⟨numbered, made, refers⟩ := valid.complete id term held
      refine ⟨?_, made, refers.mono ?_⟩
      · rw [idOf?_reserve, if_neg, numbered]
        rintro rfl
        rw [new] at numbered
        cases numbered
      · rw [slots_reserve, List.length_append]
        exact Nat.le_add_right _ _
    · obtain ⟨_, unfilled⟩ := List.getElem?_eq_some_iff.1 held
      simp at unfilled

namespace Grows

theorem refl (valid : arena.Valid spec) : arena.Grows spec arena :=
  ⟨valid, ⟨[], by simp, by simp⟩, fun _ _ numbered => numbered⟩

theorem trans (first : former.Grows spec middle) (second : middle.Grows spec latter) :
    former.Grows spec latter := by
  obtain ⟨added, slots, complete⟩ := first.slots
  obtain ⟨further, slotsBehind, completeBehind⟩ := second.slots
  refine ⟨second.valid, ⟨added ++ further, ?_, ?_⟩, ?_⟩
  · rw [slotsBehind, slots, List.append_assoc]
  · intro slot member
    exact (List.mem_append.1 member).elim (complete slot) (completeBehind slot)
  · exact fun name id numbered => second.names name id (first.names name id numbered)

theorem length_le (grows : former.Grows spec latter) :
    former.slots.length ≤ latter.slots.length := by
  obtain ⟨added, slots, _⟩ := grows.slots
  rw [slots, List.length_append]
  exact Nat.le_add_right _ _

/-- A slot that was reserved behind an arena is filled after others have been added behind it. -/
theorem fill {term : Term} (behind : (arena.reserve term.name).Grows spec latter)
    (new : arena.idOf? term.name = none) (made : spec.Makes term)
    (refers : term.RefersBelow latter.slots.length) (unmarked : term.flags.aether = false) :
    arena.Grows spec (latter.fill arena.slots.length term) := by
  obtain ⟨added, slots, complete⟩ := behind.slots
  have numbered : latter.idOf? term.name = some arena.slots.length :=
    behind.names _ _ (by rw [idOf?_reserve, if_pos rfl])
  have length : (latter.fill arena.slots.length term).slots.length = latter.slots.length := by
    simp [Arena.fill]
  refine ⟨⟨behind.valid.defined, ?_, behind.valid.apart, ?_, ?_⟩, ⟨some term :: added, ?_, ?_⟩, ?_⟩
  · intro name id given
    rw [length]
    exact behind.valid.below name id given
  · intro id below
    rw [length] at below
    exact behind.valid.named id below
  · intro id other held
    rw [length]
    simp only [Arena.fill, List.getElem?_set] at held
    split at held
    · next same =>
        split at held
        · cases held
          exact ⟨same ▸ numbered, made, refers⟩
        · cases held
    · exact behind.valid.complete id other held
  · simp [Arena.fill, slots]
  · intro slot member
    rcases List.mem_cons.1 member with rfl | member
    · exact ⟨term, rfl, unmarked⟩
    · exact complete slot member
  · intro name id given
    refine behind.names name id ?_
    rw [idOf?_reserve, if_neg, given]
    rintro rfl
    rw [new] at given
    cases given

end Grows

end Arena

end Resolution

end Parlance
