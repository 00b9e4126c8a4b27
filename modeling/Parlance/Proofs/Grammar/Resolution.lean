import Parlance.Proofs.Grammar.Walk
import Parlance.Proofs.Outcome

/-!
# What resolution yields

Resolution yields a grammar whose terms are made from the definitions of their names, or an error
that says what is wrong with the description. One induction on the fuel carries this through the
walks: it shows that the fuel never runs out, that the arena grows by complete slots, that all names
walked through are grounded, and that every error is warranted.
-/

namespace Parlance

namespace Resolution

variable {spec : Spec} {name referrer : String} {names : List String} {arena : Arena} {walk : Walk}

/-- Resolution may be asked by the referrer to follow the name. -/
structure Follows (spec : Spec) (referrer name : String) : Prop where
  visited : spec.Visits name
  mentioned : spec.definitions.get? name = none →
    spec.Visits referrer ∧ spec.Mentions referrer name

theorem Follows.of_mentions (visited : spec.Visits referrer)
    (mentions : spec.Mentions referrer name) : Follows spec referrer name :=
  ⟨.mentioned visited mentions, fun _ => ⟨visited, mentions⟩⟩

/-- The numbers of the names in a larger arena. All that is met from the names is defined. -/
structure Flattened (spec : Spec) (names : List String) (arena : Arena)
    (result : List TermId × Arena) : Prop where
  grows : arena.Grows spec result.2
  below : ∀ id ∈ result.1, id < result.2.slots.length
  grounded : ∀ name ∈ names, spec.Grounded name

/-- The error is warranted if the referrer may ask for the names. -/
def Excuses (spec : Spec) (referrer : String) (names : List String) (fault : ResolveError) : Prop :=
  (∀ name ∈ names, Follows spec referrer name) → spec.Warrants fault

/-- Within the depth that the bound allows, flattening yields numbers or an error that is warranted
if the referrer may ask for the names. -/
def Flattening.Sound (spec : Spec) (bound : Nat) (flatten : Flattening) : Prop :=
  ∀ referrer names (arena : Arena), arena.Valid spec → spec.depthLeft (.start arena) < bound →
    Yields (flatten referrer names arena) (Flattened spec names arena)
      (Excuses spec referrer names)

/-- Within the depth that the bound allows, a walk goes through the names or ends in an error that
is warranted if the referrer may ask for them. -/
def Expansion.Sound (spec : Spec) (bound : Nat) (expand : Expansion) : Prop :=
  ∀ referrer names (walk : Walk), walk.arena.Valid spec →
    (∀ id ∈ walk.met, id < walk.arena.slots.length) → spec.depthLeft walk < bound →
      Yields (expand referrer names walk) (walk.Passes spec names) (Excuses spec referrer names)

section Completion

variable {definition : TermDefinition} {bound : Nat} {flatten : Flattening}

theorem matcher_yields (defined : spec.definitions.get? name = some (.term definition))
    {marker : Marker} (member : marker ∈ definition.markers) :
    Yields (matcher name marker) (fun made => marker.matcher = .ok made) spec.Warrants := by
  rw [matcher]
  cases outcome : marker.matcher with
  | ok made => exact rfl
  | error flaw => exact .invalidPattern defined member outcome

variable (sound : flatten.Sound spec bound)
  (defined : spec.definitions.get? name = some (.term definition)) (valid : arena.Valid spec)
  (within : ∀ latter, arena.Grows spec latter → spec.depthLeft (.start latter) < bound)
include sound defined valid within

/-- A list of the definition of a term can be flattened. -/
theorem flatten_yields (listed : ∀ mentioned ∈ names, mentioned ∈ definition.mentions) :
    Yields (flatten name names arena) (Flattened spec names arena) spec.Warrants :=
  (sound name names arena valid (within arena (.refl valid))).loosen fun _ excuses =>
    excuses fun mentioned member =>
      .of_mentions (.term defined) ⟨_, defined, listed mentioned member⟩

theorem postgroups_yields :
    Yields (postgroups flatten name definition arena) (fun result =>
      arena.Grows spec result.2 ∧
        (∀ ids, result.1 = some ids → ∀ id ∈ ids, id < result.2.slots.length) ∧
        ∀ mentioned ∈ definition.postgroups.getD [], spec.Grounded mentioned) spec.Warrants := by
  rw [postgroups]
  cases listed : definition.postgroups with
  | none => exact ⟨.refl valid, by simp, by simp⟩
  | some names =>
      refine Yields.bind (flatten_yields sound defined valid within ?_) ?_
      · intro mentioned member
        simp [TermDefinition.mentions, listed, member]
      · rintro ⟨ids, latter⟩ flattened
        exact ⟨flattened.grows, by rintro _ ⟨⟩; exact flattened.below, flattened.grounded⟩

/-- The shape, the markers and the subgroups of a term come from its definition. -/
theorem build_yields :
    Yields (build flatten name definition arena) (fun result =>
      arena.Grows spec result.2.2 ∧
        (∀ postgroups, definition.Makes ⟨name,
          ⟨definition.entity.isSome, definition.samePostgroups, false⟩, result.1, result.2.1,
          postgroups⟩) ∧
        (∀ stop subgroups, result.2.1 = .group stop subgroups →
          ∀ id ∈ subgroups, id < result.2.2.slots.length) ∧
        ∀ mentioned ∈ definition.subgroups.getD [], spec.Grounded mentioned) spec.Warrants := by
  rw [build]
  split
  · next marker entity =>
      split
      · next marked =>
          exact .invalidTerm defined ⟨by simp [entity], by simpa using marked⟩
      · next unmarked =>
          simp only [Bool.or_eq_true, not_or, Bool.not_eq_true, Option.isSome_eq_false_iff,
            Option.isNone_iff_eq_none] at unmarked
          split
          · next listed => exact .invalidTerm defined ⟨by simp [entity], listed⟩
          · next unlisted =>
              refine Yields.bind (matcher_yields defined ?_) ?_
              · simp [TermDefinition.markers, entity]
              · intro start made
                simp only [Bool.not_eq_true, Option.isSome_eq_false_iff,
                  Option.isNone_iff_eq_none] at unlisted
                refine ⟨.refl valid, fun _ => ?_, by rintro _ _ ⟨⟩, by simp [unlisted]⟩
                exact .token marker entity unmarked.1 unmarked.2 unlisted made rfl rfl
                  (by simp [entity])
  · next noEntity =>
      split
      · next opening closing starts stops =>
          split
          · next names listed =>
              refine Yields.bind (matcher_yields defined ?_) ?_
              · simp [TermDefinition.markers, starts]
              intro start startMade
              refine Yields.bind (matcher_yields defined ?_) ?_
              · simp [TermDefinition.markers, stops]
              intro stop stopMade
              refine Yields.bind (flatten_yields sound defined valid within ?_) ?_
              · intro mentioned member
                simp [TermDefinition.mentions, listed, member]
              rintro ⟨subgroups, latter⟩ flattened
              refine ⟨flattened.grows, fun _ => ?_, ?_, by simpa [listed] using flattened.grounded⟩
              · exact .group opening closing stop subgroups noEntity starts stops (by simp [listed])
                  startMade stopMade rfl rfl (by simp [noEntity])
              · rintro _ _ ⟨⟩
                exact flattened.below
          · next unlisted => exact .invalidTerm defined ⟨noEntity, unlisted⟩
      · next lacking =>
          suffices lacks : definition.start = none ∨ definition.stop = none from
            .invalidTerm defined ⟨noEntity, lacks⟩
          cases starts : definition.start with
          | none => exact .inl rfl
          | some opening =>
              cases stops : definition.stop with
              | none => exact .inr rfl
              | some closing => exact absurd stops (lacking opening closing starts)

/-- Completing a term makes it from its definition. -/
theorem complete_yields :
    Yields (complete flatten name definition arena) (fun result =>
      arena.Grows spec result.2 ∧ result.1.name = name ∧ spec.Makes result.1 ∧
        result.1.RefersBelow result.2.slots.length ∧ result.1.flags.aether = false)
      spec.Warrants := by
  refine (postgroups_yields sound defined valid within).bind ?_
  rintro ⟨postgroups, middle⟩ ⟨grows, below, grounded⟩
  have further := build_yields sound defined grows.valid fun latter more =>
    within latter (grows.trans more)
  refine further.bind ?_
  rintro ⟨start, body, latter⟩ ⟨more, makes, belowInside, groundedInside⟩
  refine ⟨grows.trans more, rfl, ⟨definition, defined, makes postgroups, ?_⟩, ⟨?_, ?_⟩, rfl⟩
  · intro mentioned member
    rcases List.mem_append.1 member with member | member
    · exact grounded mentioned member
    · exact groundedInside mentioned member
  · intro id member
    cases body with
    | token => cases member
    | group stop subgroups => exact belowInside stop subgroups rfl id member
  · intro ids given id member
    exact Nat.lt_of_lt_of_le (below ids given id member) more.length_le

end Completion

/-- A term gets a number, and it is complete if its number is new. -/
theorem number_yields {bound : Nat} {flatten : Flattening} {definition : TermDefinition}
    (sound : flatten.Sound spec bound)
    (defined : spec.definitions.get? name = some (.term definition)) (valid : arena.Valid spec)
    (within : arena.idOf? name = none → ∀ latter, (arena.reserve name).Grows spec latter →
      spec.depthLeft (.start latter) < bound) :
    Yields (number spec flatten name referrer arena) (fun result =>
      arena.Grows spec result.2 ∧ result.2.idOf? name = some result.1) spec.Warrants := by
  rw [number]
  cases given : arena.idOf? name with
  | some id => exact ⟨.refl valid, given⟩
  | none =>
      simp only [defined]
      refine (complete_yields sound defined (valid.reserve given defined) (within given)).bind ?_
      rintro ⟨term, latter⟩ ⟨grows, named, made, refers, unmarked⟩
      cases named
      refine ⟨grows.fill given made refers unmarked, ?_⟩
      exact grows.names _ _ (by rw [Arena.idOf?_reserve, if_pos rfl])

theorem flattenBy_sound {bound : Nat} {expand : Expansion} (sound : expand.Sound spec bound) :
    (flattenBy expand).Sound spec bound := by
  intro referrer names arena valid within
  refine (sound referrer names (.start arena) valid (by simp [Walk.start]) within).bind ?_
  intro walk passes
  exact ⟨passes.grows, passes.met, fun name member => passes.grounded member⟩

/-- Following one name passes it. -/
theorem follow_yields {bound : Nat} {expand : Expansion} (sound : expand.Sound spec bound)
    (valid : walk.arena.Valid spec) (below : ∀ id ∈ walk.met, id < walk.arena.slots.length)
    (within : spec.depthLeft walk < bound + 1) :
    Yields (follow spec expand referrer walk name) (walk.Passes spec [name])
      (Excuses spec referrer [name]) := by
  rw [follow]
  cases defined : spec.definitions.get? name with
  | none =>
      intro follows
      obtain ⟨visited, mentions⟩ := (follows name (by simp)).mentioned defined
      exact .unresolved defined visited mentions
  | some definition =>
      have contained : spec.definitions.contains name = true := by
        rw [Dictionary.contains, defined]
        rfl
      cases definition with
      | phrase members =>
          dsimp only
          split
          · next again =>
              exact .single (.refl valid) below rfl ⟨contained, fun _ _ => by simpa using again⟩
          · next new =>
              have less := Spec.unentered_cons_lt defined (by simpa using new)
              have inside := sound name members { walk with entered := name :: walk.entered } valid
                below (by simp only [Spec.depthLeft] at within ⊢; omega)
              refine (inside.mono fun _ => .phrase defined).loosen fun _ excuses follows => ?_
              have visited := (follows name (by simp)).visited
              exact excuses fun member among => .of_mentions visited ⟨_, defined, among⟩
      | term definition =>
          refine Yields.bind ((number_yields (flattenBy_sound sound) defined valid ?_).loosen
            fun _ warranted _ => warranted) ?_
          · intro new latter grows
            have less := Spec.depthLeft_start_lt defined new grows
            omega
          · rintro ⟨id, latter⟩ ⟨grows, given⟩
            refine .single (by simpa using grows) ?_ (by simp) ⟨contained, ?_⟩
            · intro other member
              rw [Walk.arena_meet]
              rcases Walk.mem_met_meet.1 member with rfl | member
              · exact grows.valid.below name other given
              · exact Nat.lt_of_lt_of_le (below other member) grows.length_le
            · intro members same
              rw [defined] at same
              cases same

/-- Walking through names passes them, as long as the fuel is more than the depth left. -/
theorem expand_sound (spec : Spec) (fuel : Nat) : (expand spec fuel).Sound spec fuel := by
  induction fuel with
  | zero => exact fun _ _ _ _ _ within => absurd within (Nat.not_lt_zero _)
  | succ fuel ih =>
      intro referrer names walk valid below within
      rw [expand]
      induction names generalizing walk with
      | nil => exact .nil valid below
      | cons name rest ihRest =>
          rw [List.foldlM_cons]
          refine Yields.bind ((follow_yields ih valid below within).loosen
            fun _ excuses follows => excuses fun other member =>
              follows other (by simpa using .inl (List.mem_singleton.1 member))) ?_
          intro middle first
          have behind := ihRest middle first.grows.valid first.met
            (Nat.lt_of_le_of_lt first.depthLeft_le within)
          exact (behind.mono fun _ => .cons first).loosen fun _ excuses follows =>
            excuses fun other member => follows other (by simp [member])

theorem flatten_sound (spec : Spec) : (flatten spec).Sound spec (fuel spec) :=
  flattenBy_sound (expand_sound spec _)

/-- A defined term gets a number, in a description's own way of flattening. -/
theorem number_flatten_yields {definition : TermDefinition}
    (defined : spec.definitions.get? name = some (.term definition)) (valid : arena.Valid spec) :
    Yields (number spec (flatten spec) name referrer arena) (fun result =>
      arena.Grows spec result.2 ∧ result.2.idOf? name = some result.1) spec.Warrants :=
  number_yields (flatten_sound spec) defined valid fun _ latter _ =>
    spec.depthLeft_start_lt_fuel latter

/-- All terms of a description get numbers. -/
theorem numberAll_yields (valid : arena.Valid spec) :
    Yields (numberAll spec arena) (fun latter => arena.Grows spec latter ∧
      ∀ name definition, spec.definitions.get? name = some (.term definition) →
        ∃ id, latter.idOf? name = some id) spec.Warrants := by
  rw [numberAll]
  suffices part : ∀ entries ⊆ spec.definitions.entries, ∀ arena : Arena, arena.Valid spec →
      Yields (entries.foldlM _ arena) (fun latter => arena.Grows spec latter ∧
        ∀ name definition, (name, .term definition) ∈ entries → ∃ id, latter.idOf? name = some id)
        spec.Warrants by
    refine (part _ (fun _ member => member) arena valid).mono ?_
    rintro latter ⟨grows, every⟩
    refine ⟨grows, fun name definition defined => ?_⟩
    exact every name definition (spec.definitions.mem_of_get? defined)
  -- The induction runs over a part of the entries, all of which are looked up in the whole.
  intro entries within
  induction entries with
  | nil => exact fun arena valid => ⟨.refl valid, by simp⟩
  | cons entry rest ih =>
      intro arena valid
      obtain ⟨member, restWithin⟩ := List.cons_subset.1 within
      rw [List.foldlM_cons]
      obtain ⟨name, definition | members⟩ := entry
      · have defined := spec.definitions.get?_of_mem member
        have first : Yields (Prod.snd <$> number spec (flatten spec) name "<spec>" arena)
            (fun middle => arena.Grows spec middle ∧ ∃ id, middle.idOf? name = some id)
            spec.Warrants :=
          .map ((number_flatten_yields defined valid).mono fun result ⟨grows, given⟩ =>
            ⟨grows, result.1, given⟩)
        refine first.bind fun middle ⟨grows, id, given⟩ => ?_
        refine (ih restWithin middle grows.valid).mono fun latter ⟨more, every⟩ =>
          ⟨grows.trans more, ?_⟩
        intro other otherDefinition among
        rcases List.mem_cons.1 among with same | among
        · cases same
          exact ⟨id, more.names name id given⟩
        · exact every other otherDefinition among
      · refine (ih restWithin arena valid).mono fun latter ⟨grows, every⟩ => ⟨grows, ?_⟩
        intro other definition among
        exact every other definition (by simpa using among)

/-- The term between tokens has the number of its name. -/
theorem aetherId_yields (valid : arena.Valid spec) :
    Yields (aetherId spec arena) (fun result => arena.Grows spec result.2 ∧
      spec.aether.map result.2.idOf? = result.1.map some) spec.Warrants := by
  rw [aetherId]
  cases aether : spec.aether with
  | none => exact ⟨.refl valid, rfl⟩
  | some name =>
      dsimp only
      split
      · next definition defined =>
          refine (number_flatten_yields defined valid).bind ?_
          rintro ⟨id, latter⟩ ⟨grows, given⟩
          exact ⟨grows, congrArg some given⟩
      · next members defined => exact .aetherIsPhrase aether defined
      · next undefined => exact .unresolvedAether undefined aether

/-- Slots that are complete have their terms collected. -/
theorem collect_eq_ok {slots : List (Option Term)} (complete : none ∉ slots) (id : TermId) :
    ∃ terms, collect id slots = .ok terms ∧ slots = terms.map some := by
  induction slots generalizing id with
  | nil => exact ⟨[], rfl, rfl⟩
  | cons slot rest ih =>
      cases slot with
      | none => exact absurd (by simp) complete
      | some term =>
          obtain ⟨terms, collected, same⟩ := ih (fun member => complete (by simp [member])) (id + 1)
          refine ⟨term :: terms, ?_, by simp [same]⟩
          rw [collect, collected]
          rfl

theorem getElem?_markAether (aether : Option TermId) (terms : List Term) (id : TermId) :
    (markAether aether terms)[id]? =
      terms[id]?.map fun term => if aether = some id then term.markAether else term := by
  cases aether with
  | none => simp [markAether]
  | some marked => simp [markAether, List.getElem?_modify]

@[simp] theorem length_markAether (aether : Option TermId) (terms : List Term) :
    (markAether aether terms).length = terms.length := by
  cases aether with
  | none => rfl
  | some marked => simp [markAether]

/-- Marking the term between tokens keeps an arena of complete slots valid. -/
theorem Arena.Valid.markAether {terms : List Term} {names : Dictionary TermId}
    (valid : (⟨terms.map some, names⟩ : Arena).Valid spec) (aether : Option TermId) :
    (⟨(markAether aether terms).map some, names⟩ : Arena).Valid spec where
  defined := valid.defined
  below name id given := by simpa using valid.below name id given
  apart := valid.apart
  named id below := valid.named id (by simpa using below)
  complete id term held := by
    simp only [List.getElem?_map, getElem?_markAether, Option.map_map, Option.map_eq_some_iff,
      Function.comp_apply, Option.some.injEq] at held
    obtain ⟨former, found, rfl⟩ := held
    have complete := valid.complete id former (by simp [found])
    simp only [List.length_map, length_markAether] at complete ⊢
    split
    · exact ⟨complete.1, complete.2.1.markAether, complete.2.2.subgroups, complete.2.2.postgroups⟩
    · exact complete

end Resolution

open Resolution in
/-- What resolution ends with: a valid arena without open slots, in which every defined term has a
number and the term between tokens is marked. -/
structure Spec.Resolved (spec : Spec) (grammar : Grammar) : Prop where
  arena : (⟨grammar.terms.map some, grammar.names⟩ : Arena).Valid spec
  numbered : ∀ name definition, spec.definitions.get? name = some (.term definition) →
    ∃ id, grammar.idOf? name = some id
  root : ∀ id ∈ grammar.root, id < grammar.terms.length
  rooted : spec.Grounded spec.root
  aether : spec.aether.map grammar.idOf? = grammar.aether.map some
  marked : ∀ id term, grammar.term? id = some term →
    (term.flags.aether = true ↔ grammar.aether = some id)

open Resolution in
/-- Resolution yields what it should end with, or a warranted error. -/
theorem Spec.resolve_yields (spec : Spec) : Yields spec.resolve spec.Resolved spec.Warrants := by
  rw [resolve]
  cases contained : spec.definitions.contains spec.root with
  | false => exact .noRoot (by simpa [Dictionary.contains] using contained)
  | true =>
      have follows : Follows spec "<root>" spec.root := by
        refine ⟨.root, fun undefined => ?_⟩
        rw [Dictionary.contains, undefined] at contained
        cases contained
      refine Yields.bind ((flatten_sound spec "<root>" [spec.root] .empty (Arena.valid_empty spec)
        (spec.depthLeft_start_lt_fuel _)).loosen fun _ excuses =>
          excuses (by simpa using follows)) ?_
      rintro ⟨root, first⟩ flattened
      refine (numberAll_yields flattened.grows.valid).bind ?_
      rintro second ⟨grows, numbered⟩
      refine (aetherId_yields grows.valid).bind ?_
      rintro ⟨aether, third⟩ ⟨more, named⟩
      obtain ⟨added, slots, complete⟩ := (flattened.grows.trans (grows.trans more)).slots
      rw [Arena.empty, List.nil_append] at slots
      have filled : none ∉ third.slots := by
        rw [slots]
        intro member
        obtain ⟨_, same, _⟩ := complete none member
        cases same
      obtain ⟨terms, collected, same⟩ := collect_eq_ok filled 0
      dsimp only
      rw [collected]
      refine ⟨?_, ?_, ?_, flattened.grounded spec.root (by simp), named, ?_⟩
      · refine Arena.Valid.markAether ?_ aether
        rw [← same]
        exact more.valid
      · intro name definition defined
        obtain ⟨id, given⟩ := numbered name definition defined
        exact ⟨id, more.names name id given⟩
      · intro id member
        have below := Nat.lt_of_lt_of_le (flattened.below id member) (grows.trans more).length_le
        rw [same, List.length_map] at below
        simpa using below
      · intro id term found
        simp only [Grammar.term?, getElem?_markAether, Option.map_eq_some_iff] at found
        obtain ⟨former, found, rfl⟩ := found
        obtain ⟨_, isTerm, unmarked⟩ := complete (some former) (by
          rw [← slots, same]
          exact List.mem_map.2 ⟨former, List.mem_of_getElem? found, rfl⟩)
        cases isTerm
        split
        · next here => exact iff_of_true rfl here
        · next elsewhere => exact iff_of_false (by simp [unmarked]) elsewhere

namespace Spec.Resolved

variable {spec : Spec} {grammar : Grammar} {name : String} {id : TermId} {term : Term}

/-- The term of a number has the number by its name, is made from the definition of its name, and
refers to numbers that terms have. -/
theorem of_term? (resolved : spec.Resolved grammar) (found : grammar.term? id = some term) :
    grammar.idOf? term.name = some id ∧ spec.Makes term ∧
      term.RefersBelow grammar.terms.length := by
  have complete := resolved.arena.complete id term
  simp only [List.getElem?_map, List.length_map] at complete
  exact complete (by rw [← Grammar.term?, found, Option.map_some])

/-- A name has the number at which its term stands. -/
theorem idOf?_eq_some_iff (resolved : spec.Resolved grammar) :
    grammar.idOf? name = some id ↔ ∃ term, grammar.term? id = some term ∧ term.name = name := by
  constructor
  · intro given
    have below : id < grammar.terms.length := by
      simpa using resolved.arena.below name id given
    have found : grammar.term? id = some grammar.terms[id] := List.getElem?_eq_getElem below
    exact ⟨_, found, resolved.arena.apart _ _ id (resolved.of_term? found).1 given⟩
  · rintro ⟨term, found, rfl⟩
    exact (resolved.of_term? found).1

/-- The term of a defined name is made from the definition. -/
theorem exists_term (resolved : spec.Resolved grammar) {definition : TermDefinition}
    (defined : spec.definitions.get? name = some (.term definition)) :
    ∃ id term, grammar.idOf? name = some id ∧ grammar.term? id = some term ∧
      definition.Makes term ∧ ∀ mentioned ∈ definition.mentions, spec.Grounded mentioned := by
  obtain ⟨id, given⟩ := resolved.numbered name definition defined
  obtain ⟨term, found, rfl⟩ := resolved.idOf?_eq_some_iff.1 given
  obtain ⟨_, ⟨other, same, makes, grounded⟩, _⟩ := resolved.of_term? found
  rw [defined] at same
  cases same
  exact ⟨id, term, given, found, makes, grounded⟩

/-- What visited names mention is defined. -/
theorem contains_of_mentions (resolved : spec.Resolved grammar) {referrer : String}
    (visited : spec.Visits referrer) (mentions : spec.Mentions referrer name) :
    spec.definitions.contains name = true := by
  refine visited.grounded resolved.rooted ?_ mentions name .here
  intro other definition defined
  obtain ⟨_, _, _, _, _, grounded⟩ := resolved.exists_term defined
  exact grounded

end Spec.Resolved

theorem Spec.resolved_of_resolve {spec : Spec} {grammar : Grammar}
    (resolved : spec.resolve = .ok grammar) : spec.Resolved grammar := by
  have yields := spec.resolve_yields
  rwa [resolved] at yields

theorem Spec.warrants_of_resolve {spec : Spec} {fault : ResolveError}
    (failed : spec.resolve = .error fault) : spec.Warrants fault := by
  have yields := spec.resolve_yields
  rwa [failed] at yields

/-- A resolved grammar has a term for every defined one, and all its terms are made from the
definitions of their names. -/
theorem Spec.makes_of_resolve {spec : Spec} {grammar : Grammar}
    (resolved : spec.resolve = .ok grammar) :
    (∀ term ∈ grammar.terms, spec.Makes term) ∧
      ∀ name definition, spec.definitions.get? name = some (.term definition) →
        ∃ term, grammar.termNamed? name = some term ∧ definition.Makes term := by
  have resolved := resolved_of_resolve resolved
  constructor
  · intro term member
    obtain ⟨id, found⟩ := List.getElem?_of_mem member
    exact (resolved.of_term? found).2.1
  · intro name definition defined
    obtain ⟨id, term, given, found, makes, _⟩ := resolved.exists_term defined
    exact ⟨term, by rw [Grammar.termNamed?, given, Option.bind_some, found], makes⟩

end Parlance
