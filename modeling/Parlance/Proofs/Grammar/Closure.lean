import Parlance.Proofs.Grammar.Listing

/-!
# The closure of a list of names

A depth-first walk notes a term every time it meets one, and skips the phrases that it has entered.
The terms that names stand for are those that the walk notes, in the order in which it first meets
them: no term that can be reached through phrases is lost by skipping, whether the phrase skipped is
done with or still open. Without cycles, they are also the first occurrences in the full expansion of
the names, which skips nothing.
-/

namespace Parlance

section Duplicates

variable {α : Type} [BEq α] [LawfulBEq α] {first second : List α}

theorem nodup_eraseDups (items : List α) : items.eraseDups.Nodup := by
  match items with
  | [] => exact .nil
  | item :: rest =>
      rw [List.eraseDups_cons, List.nodup_cons, List.mem_eraseDups]
      exact ⟨by simp, nodup_eraseDups _⟩
termination_by items.length
decreasing_by exact Nat.lt_succ_of_le (List.length_filter_le _ _)

/-- Behind lists with the same first occurrences, the same items are first ones. -/
theorem eraseDups_append_right (same : first.eraseDups = second.eraseDups) (behind : List α) :
    (first ++ behind).eraseDups = (second ++ behind).eraseDups := by
  have members : behind.removeAll first = behind.removeAll second := by
    refine List.filter_congr fun item _ => ?_
    rw [Bool.eq_iff_iff]
    simp [← List.mem_eraseDups (l := first), same]
  rw [List.eraseDups_append, List.eraseDups_append, same, members]

/-- Items that occur before are no first occurrences. -/
theorem eraseDups_append_of_subset (subset : second ⊆ first) :
    (first ++ second).eraseDups = first.eraseDups := by
  have nothing : second.removeAll first = [] := by
    simpa [List.removeAll] using fun item member => subset member
  rw [List.eraseDups_append, nothing, List.eraseDups_nil, List.append_nil]

end Duplicates

namespace Spec

/-- The name is that of a term which can be reached from the names through phrases. -/
structure Reaches (spec : Spec) (names : List String) (met : String) : Prop where
  term : ∃ definition, spec.definitions.get? met = some (.term definition)
  enters : ∃ name ∈ names, spec.Enters name met

/-- A walk goes through the names from left to right and into phrases at once. It notes every term
that it meets, and skips the phrases that it has entered. -/
inductive Walks (spec : Spec) : (names entered noted after : List String) → Prop where
  | nil {entered} : Walks spec [] entered [] entered
  | term {name definition names entered noted after}
      (defined : spec.definitions.get? name = some (.term definition))
      (rest : Walks spec names entered noted after) :
      Walks spec (name :: names) entered (name :: noted) after
  | again {name members names entered noted after}
      (defined : spec.definitions.get? name = some (.phrase members)) (old : name ∈ entered)
      (rest : Walks spec names entered noted after) :
      Walks spec (name :: names) entered noted after
  | phrase {name members names entered noted middle notedBehind after}
      (defined : spec.definitions.get? name = some (.phrase members)) (new : name ∉ entered)
      (inside : Walks spec members (name :: entered) noted middle)
      (rest : Walks spec names middle notedBehind after) :
      Walks spec (name :: names) entered (noted ++ notedBehind) after

/-- The full expansion of names has the expansion of its members in the place of every phrase. -/
inductive Expands (spec : Spec) : (names expanded : List String) → Prop where
  | nil : Expands spec [] []
  | term {name definition names expanded}
      (defined : spec.definitions.get? name = some (.term definition))
      (rest : Expands spec names expanded) : Expands spec (name :: names) (name :: expanded)
  | phrase {name members names inside expanded}
      (defined : spec.definitions.get? name = some (.phrase members))
      (first : Expands spec members inside) (rest : Expands spec names expanded) :
      Expands spec (name :: names) (inside ++ expanded)

/-- No phrase that can be reached from the names can be reached from a member of itself. -/
def Acyclic (spec : Spec) (names : List String) : Prop :=
  ∀ phrase members, spec.definitions.get? phrase = some (.phrase members) →
    (∃ name ∈ names, spec.Enters name phrase) → ∀ member ∈ members, ¬spec.Enters member phrase

/-- The terms are what the names stand for: the terms that can be reached from them through phrases,
each once, in the order in which a walk first meets them, and without cycles also the first
occurrences in the full expansion. -/
structure Closure (spec : Spec) (names terms : List String) : Prop where
  nodup : terms.Nodup
  mem_iff : ∀ name, name ∈ terms ↔ spec.Reaches names name
  walks : ∃ noted entered, spec.Walks names [] noted entered
  order : ∀ noted entered, spec.Walks names [] noted entered → terms = noted.eraseDups
  expands : spec.Acyclic names → ∃ expanded, spec.Expands names expanded
  expansion : spec.Acyclic names → ∀ expanded, spec.Expands names expanded →
    terms = expanded.eraseDups

variable {spec : Spec} {name : String} {names entered noted after terms : List String}
  {tour tourAfter : Tour}

/-- A walk goes one way only. -/
theorem Walks.unique {others otherAfter : List String}
    (first : spec.Walks names entered noted after)
    (second : spec.Walks names entered others otherAfter) : noted = others ∧ after = otherAfter := by
  induction first generalizing others otherAfter with
  | nil =>
      cases second
      exact ⟨rfl, rfl⟩
  | term defined _ ih =>
      cases second with
      | term _ rest =>
          obtain ⟨rfl, rfl⟩ := ih rest
          exact ⟨rfl, rfl⟩
      | again same => simp [defined] at same
      | phrase same => simp [defined] at same
  | again defined old _ ih =>
      cases second with
      | term same => simp [defined] at same
      | again _ _ rest => exact ih rest
      | phrase _ new => exact absurd old new
  | phrase defined new _ _ ihInside ihRest =>
      cases second with
      | term same => simp [defined] at same
      | again _ old => exact absurd old new
      | phrase same _ inside rest =>
          cases defined.symm.trans same
          obtain ⟨rfl, rfl⟩ := ihInside inside
          obtain ⟨rfl, rfl⟩ := ihRest rest
          exact ⟨rfl, rfl⟩

theorem Expands.unique {expanded others : List String} (first : spec.Expands names expanded)
    (second : spec.Expands names others) : expanded = others := by
  induction first generalizing others with
  | nil =>
      cases second
      rfl
  | term defined _ ih =>
      cases second with
      | term _ rest => rw [ih rest]
      | phrase same => simp [defined] at same
  | phrase defined _ _ ihInside ihRest =>
      cases second with
      | term same => simp [defined] at same
      | phrase same inside rest =>
          cases defined.symm.trans same
          rw [ihInside inside, ihRest rest]

/-- Meeting a term adds it to the first occurrences. -/
theorem met_meet {seen : List String} (met : tour.met = seen.eraseDups) (name : String) :
    (tour.meet name).met = (seen ++ [name]).eraseDups := by
  by_cases member : name ∈ seen
  · simp [Tour.meet, met, member, eraseDups_append_of_subset]
  · simp [Tour.meet, met, member, List.eraseDups_append, List.removeAll, List.eraseDups_cons]

/-- A tour is a walk, and what it has met are the first occurrences among what has been noted. -/
theorem Tours.walks {seen : List String} (tours : spec.Tours names tour tourAfter)
    (met : tour.met = seen.eraseDups) :
    ∃ noted, spec.Walks names tour.entered noted tourAfter.entered ∧
      tourAfter.met = (seen ++ noted).eraseDups := by
  induction tours generalizing seen with
  | nil => exact ⟨[], .nil, by rw [List.append_nil, met]⟩
  | @term name _ _ tour _ defined _ ih =>
      obtain ⟨noted, walks, first⟩ := ih (met_meet met name)
      have entered : (tour.meet name).entered = tour.entered := by
        rw [Tour.meet]
        split <;> rfl
      exact ⟨name :: noted, .term defined (entered ▸ walks), by simpa using first⟩
  | again defined old _ ih =>
      obtain ⟨noted, walks, first⟩ := ih met
      exact ⟨noted, .again defined old walks, first⟩
  | phrase defined new _ _ ihInside ihRest =>
      obtain ⟨noted, inside, metInside⟩ := ihInside met
      obtain ⟨notedBehind, rest, metRest⟩ := ihRest metInside
      exact ⟨noted ++ notedBehind, .phrase defined new inside rest, by simpa using metRest⟩

/-- If the name is a term, it has been noted, and if it is a phrase, it has been entered. -/
structure Settles (spec : Spec) (noted entered : List String) (name : String) : Prop where
  term : ∀ definition, spec.definitions.get? name = some (.term definition) → name ∈ noted
  phrase : ∀ members, spec.definitions.get? name = some (.phrase members) → name ∈ entered

theorem Settles.mono {more further : List String} (settles : spec.Settles noted entered name)
    (terms : noted ⊆ more) (phrases : entered ⊆ further) : spec.Settles more further name :=
  ⟨fun _ defined => terms (settles.term _ defined),
    fun _ defined => phrases (settles.phrase _ defined)⟩

theorem Walks.entered_subset (walks : spec.Walks names entered noted after) : entered ⊆ after := by
  induction walks with
  | nil => exact fun _ member => member
  | term _ _ ih => exact ih
  | again _ _ _ ih => exact ih
  | phrase _ _ _ _ ihInside ihRest =>
      exact fun _ member => ihRest (ihInside (List.mem_cons_of_mem _ member))

/-- What a walk notes can be reached. -/
theorem Walks.reaches (walks : spec.Walks names entered noted after) {met : String}
    (member : met ∈ noted) : spec.Reaches names met := by
  induction walks with
  | nil => cases member
  | @term name definition names _ _ _ defined _ ih =>
      rcases List.mem_cons.1 member with rfl | member
      · exact ⟨⟨definition, defined⟩, met, by simp, .here⟩
      · obtain ⟨term, other, among, enters⟩ := ih member
        exact ⟨term, other, by simp [among], enters⟩
  | again _ _ _ ih =>
      obtain ⟨term, other, among, enters⟩ := ih member
      exact ⟨term, other, by simp [among], enters⟩
  | phrase defined _ _ _ ihInside ihRest =>
      rcases List.mem_append.1 member with member | member
      · obtain ⟨term, other, among, enters⟩ := ihInside member
        exact ⟨term, _, by simp, enters.trans defined among⟩
      · obtain ⟨term, other, among, enters⟩ := ihRest member
        exact ⟨term, other, by simp [among], enters⟩

/-- A walk settles the names, and the members of all phrases that it enters. -/
theorem Walks.settles (walks : spec.Walks names entered noted after) :
    (∀ name ∈ names, spec.Settles noted after name) ∧
      ∀ phrase ∈ after, phrase ∉ entered → ∀ members,
        spec.definitions.get? phrase = some (.phrase members) →
          ∀ member ∈ members, spec.Settles noted after member := by
  induction walks with
  | nil => exact ⟨by simp, fun _ member new => absurd member new⟩
  | @term name definition names _ noted _ defined _ ih =>
      obtain ⟨settled, inside⟩ := ih
      have more : noted ⊆ name :: noted := List.subset_cons_self _ _
      refine ⟨List.forall_mem_cons.2 ⟨⟨by simp, by simp [defined]⟩, ?_⟩, ?_⟩
      · exact fun other member => (settled other member).mono more (List.Subset.refl _)
      · exact fun phrase member new members same other among =>
          (inside phrase member new members same other among).mono more (List.Subset.refl _)
  | again defined old rest ih =>
      obtain ⟨settled, inside⟩ := ih
      have first := rest.entered_subset old
      exact ⟨List.forall_mem_cons.2 ⟨⟨by simp [defined], fun _ _ => first⟩, settled⟩, inside⟩
  | @phrase name members names entered noted middle notedBehind after defined new walksInside rest
      ihInside ihRest =>
      obtain ⟨settledInside, within⟩ := ihInside
      obtain ⟨settledBehind, behind⟩ := ihRest
      have left : noted ⊆ noted ++ notedBehind := List.subset_append_left _ _
      have right : notedBehind ⊆ noted ++ notedBehind := List.subset_append_right _ _
      have later := rest.entered_subset
      have first : name ∈ after := later (walksInside.entered_subset (by simp))
      refine ⟨List.forall_mem_cons.2 ⟨⟨by simp [defined], fun _ _ => first⟩, ?_⟩, ?_⟩
      · exact fun other member => (settledBehind other member).mono right (List.Subset.refl _)
      · intro phrase member unentered others same other among
        by_cases before : phrase ∈ middle
        · by_cases here : phrase = name
          · subst here
            cases defined.symm.trans same
            exact (settledInside other among).mono left later
          · refine (within phrase before ?_ others same other among).mono left later
            simpa [here] using unentered
        · exact (behind phrase member before others same other among).mono right
            (List.Subset.refl _)

/-- A walk from the start notes exactly what can be reached. -/
theorem Walks.mem_iff (walks : spec.Walks names [] noted after) (met : String) :
    met ∈ noted ↔ spec.Reaches names met := by
  obtain ⟨settled, inside⟩ := walks.settles
  have settles {name met : String} (member : name ∈ names) (enters : spec.Enters name met) :
      spec.Settles noted after met := by
    induction enters with
    | here => exact settled name member
    | member _ defined among ih =>
        exact inside _ (ih.phrase _ defined) (by simp) _ defined _ among
  refine ⟨walks.reaches, ?_⟩
  rintro ⟨⟨definition, defined⟩, name, member, enters⟩
  exact (settles member enters).term definition defined

theorem Acyclic.members {members : List String} (acyclic : spec.Acyclic names)
    (defined : spec.definitions.get? name = some (.phrase members)) (member : name ∈ names) :
    spec.Acyclic members := by
  rintro phrase inside same ⟨other, among, enters⟩
  exact acyclic phrase inside same ⟨name, member, enters.trans defined among⟩

theorem Acyclic.tail (acyclic : spec.Acyclic (name :: names)) : spec.Acyclic names := by
  rintro phrase inside same ⟨other, among, enters⟩
  exact acyclic phrase inside same ⟨other, by simp [among], enters⟩

/-- The members of the phrase have an expansion, and all of it has been noted. -/
def Exhausts (spec : Spec) (noted : List String) (phrase : String) : Prop :=
  ∀ members, spec.definitions.get? phrase = some (.phrase members) →
    ∃ expanded, spec.Expands members expanded ∧ expanded ⊆ noted

theorem Exhausts.mono {more : List String} (exhausts : spec.Exhausts noted name)
    (terms : noted ⊆ more) : spec.Exhausts more name := by
  intro members defined
  obtain ⟨expanded, expands, subset⟩ := exhausts members defined
  exact ⟨expanded, expands, fun _ member => terms (subset member)⟩

/-- Without cycles, names have an expansion that adds the same first occurrences to those seen
before as a walk does, if the expansions of the phrases that the walk skips have been seen. -/
theorem Walks.expands {seen : List String} (walks : spec.Walks names entered noted after)
    (acyclic : spec.Acyclic names)
    (exhausted : ∀ phrase ∈ entered, (∃ name ∈ names, spec.Enters name phrase) →
      spec.Exhausts seen phrase) :
    (∃ expanded, spec.Expands names expanded ∧
        (seen ++ expanded).eraseDups = (seen ++ noted).eraseDups) ∧
      ∀ phrase ∈ after, phrase ∉ entered → spec.Exhausts (seen ++ noted) phrase := by
  induction walks generalizing seen with
  | nil => exact ⟨⟨[], .nil, rfl⟩, fun _ member new => absurd member new⟩
  | @term name definition names entered noted after defined _ ih =>
      obtain ⟨⟨expanded, expands, same⟩, later⟩ := @ih (seen ++ [name]) acyclic.tail
        fun phrase member ⟨other, among, enters⟩ =>
          (exhausted phrase member ⟨other, by simp [among], enters⟩).mono
            (List.subset_append_left _ _)
      exact ⟨⟨name :: expanded, .term defined expands, by simpa using same⟩, by simpa using later⟩
  | @again name members names entered noted after defined old _ ih =>
      obtain ⟨inside, first, subset⟩ := exhausted name old ⟨name, by simp, .here⟩ members defined
      obtain ⟨⟨expanded, expands, same⟩, later⟩ := ih acyclic.tail
        fun phrase member ⟨other, among, enters⟩ =>
          exhausted phrase member ⟨other, by simp [among], enters⟩
      refine ⟨⟨inside ++ expanded, .phrase defined first expands, ?_⟩, later⟩
      rw [← List.append_assoc, eraseDups_append_right (eraseDups_append_of_subset subset), same]
  | @phrase name members names entered noted middle notedBehind after defined new walksInside rest
      ihInside ihRest =>
      obtain ⟨⟨inside, first, sameInside⟩, within⟩ := ihInside
        (acyclic.members defined (by simp)) fun phrase member ⟨other, among, enters⟩ => by
          -- The phrase that is still open cannot be reached from its members.
          rcases List.mem_cons.1 member with rfl | member
          · exact absurd enters (acyclic phrase members defined ⟨phrase, by simp, .here⟩ other among)
          · exact exhausted phrase member ⟨name, by simp, enters.trans defined among⟩
      have covered : inside ⊆ seen ++ noted := by
        intro item member
        rw [← List.mem_eraseDups, ← sameInside, List.mem_eraseDups]
        exact List.mem_append_right _ member
      have done : spec.Exhausts (seen ++ noted) name := by
        intro others same
        cases defined.symm.trans same
        exact ⟨inside, first, covered⟩
      obtain ⟨⟨expanded, expands, sameBehind⟩, behind⟩ := @ihRest (seen ++ noted) acyclic.tail
        fun phrase member ⟨other, among, enters⟩ => by
          by_cases opened : phrase ∈ name :: entered
          · rcases List.mem_cons.1 opened with rfl | before
            · exact done
            · exact (exhausted phrase before ⟨other, by simp [among], enters⟩).mono
                (List.subset_append_left _ _)
          · exact within phrase member opened
      refine ⟨⟨inside ++ expanded, .phrase defined first expands, ?_⟩, ?_⟩
      · rw [← List.append_assoc, eraseDups_append_right sameInside, sameBehind, List.append_assoc]
      · intro phrase member unentered
        rw [← List.append_assoc]
        by_cases before : phrase ∈ middle
        · refine Exhausts.mono ?_ (List.subset_append_left _ _)
          by_cases here : phrase = name
          · exact here ▸ done
          · exact within phrase before (by simpa [here] using unentered)
        · exact behind phrase member before

/-- The terms that names stand for are their closure. -/
theorem Lists.closure (lists : spec.Lists names terms) : spec.Closure names terms := by
  obtain ⟨entered, tours⟩ := lists
  have nothing : Tour.start.met = ([] : List String).eraseDups := rfl
  obtain ⟨noted, walks, same⟩ := tours.walks nothing
  replace same : terms = noted.eraseDups := same
  have expansion (acyclic : spec.Acyclic names) :
      ∃ expanded, spec.Expands names expanded ∧ expanded.eraseDups = noted.eraseDups := by
    have skipped : ∀ phrase ∈ Tour.start.entered, (∃ name ∈ names, spec.Enters name phrase) →
        spec.Exhausts [] phrase := by
      intro phrase member
      cases member
    exact (walks.expands acyclic skipped).1
  refine ⟨?_, ?_, ⟨noted, entered, walks⟩, ?_, ?_, ?_⟩
  · rw [same]
    exact nodup_eraseDups _
  · intro name
    rw [same, List.mem_eraseDups]
    exact walks.mem_iff name
  · intro others after otherWalks
    rw [same, (walks.unique otherWalks).1]
  · intro acyclic
    obtain ⟨expanded, expands, _⟩ := expansion acyclic
    exact ⟨expanded, expands⟩
  · intro acyclic others otherExpands
    obtain ⟨expanded, expands, first⟩ := expansion acyclic
    rw [same, ← first, expands.unique otherExpands]

end Spec

namespace Resolution

variable {spec : Spec} {names : List String} {ids : List TermId} {arena : Arena}

/-- The numbers are those of the closure of the names, none of them twice. -/
structure Arena.Closes (spec : Spec) (arena : Arena) (names : List String) (ids : List TermId) :
    Prop where
  nodup : ids.Nodup
  closure : ∃ terms, spec.Closure names terms ∧ arena.Numbers ids terms

/-- Different names have different numbers. -/
theorem Arena.Valid.nodup {terms : List String} (valid : arena.Valid spec)
    (numbers : arena.Numbers ids terms) (nodup : terms.Nodup) : ids.Nodup := by
  induction numbers with
  | nil => exact .nil
  | cons numbered rest ih =>
      rw [List.nodup_cons] at nodup ⊢
      rw [valid.mem_iff rest numbered]
      exact ⟨nodup.1, ih nodup.2⟩

theorem Arena.Flattens.closes (valid : arena.Valid spec) (flattens : arena.Flattens spec names ids) :
    arena.Closes spec names ids := by
  obtain ⟨terms, lists, numbers⟩ := flattens
  exact ⟨valid.nodup numbers lists.closure.nodup, terms, lists.closure, numbers⟩

end Resolution

namespace Spec

open Resolution in
/-- Flattening computes the closure of names, in the arena that it starts with at the beginning, and
in every one that it leaves behind. So the candidates of a resolved grammar are the closures of the
names written down, at the root and in the lists of every term. -/
theorem flatten_closes (spec : Spec) :
    (∀ referrer names (arena latter : Arena) ids, arena.Valid spec →
        flatten spec referrer names arena = .ok (ids, latter) →
          latter.Valid spec ∧ latter.Closes spec names ids) ∧
      Arena.empty.Valid spec ∧
      ∀ grammar, spec.resolve = .ok grammar →
        grammar.arena.Closes spec [spec.root] grammar.root ∧
          ∀ id term, grammar.term? id = some term → ∃ definition,
            spec.definitions.get? term.name = some (.term definition) ∧
              grammar.arena.Closes spec (definition.subgroups.getD []) term.subgroups ∧
              Option.Rel (grammar.arena.Closes spec) definition.postgroups term.postgroups := by
  refine ⟨?_, Arena.valid_empty spec, ?_⟩
  · intro referrer names arena latter ids valid done
    have shallow := spec.depthLeft_start_lt_fuel arena
    have flattened := (flatten_sound spec referrer names arena valid shallow).of_ok done
    obtain ⟨_, flattens⟩ := flatten_exact spec referrer names arena latter ids valid shallow done
    exact ⟨flattened.grows.valid, flattens.closes flattened.grows.valid⟩
  · intro grammar resolved
    have valid := (resolved_of_resolve resolved).arena
    obtain ⟨_, root, lists⟩ := lists_of_resolve resolved
    refine ⟨root.closes valid, fun id term found => ?_⟩
    obtain ⟨definition, defined, subgroups, postgroups⟩ := lists id term found
    exact ⟨definition, defined, subgroups.closes valid,
      optionRel_imp (fun _ _ flattens => flattens.closes valid) postgroups⟩

/-- Two phrases that share members, the latter of which leads back to the root. -/
def overlapping : Spec :=
  (rootedAt "root").phrase "root" ["left", "right", "x"]
    |>.phrase "left" ["x", "y"]
    |>.phrase "right" ["y", "root", "z", "left"]
    |>.term "x" (.token (.literal ['x']))
    |>.term "y" (.token (.literal ['y']))
    |>.term "z" (.token (.literal ['z']))

open Resolution in
/-- The closure of the root of the overlapping phrases has three terms. -/
theorem flatten_closes_overlapping : ∃ latter : Arena,
    flatten overlapping "<root>" ["root"] .empty = .ok ([0, 1, 2], latter) ∧
      latter.Valid overlapping ∧ latter.Closes overlapping ["root"] [0, 1, 2] := by
  have evaluated : (flatten overlapping "<root>" ["root"] .empty).toOption.map Prod.fst =
      some [0, 1, 2] := by decide +kernel
  obtain ⟨⟨ids, latter⟩, flattened, same⟩ := Option.map_eq_some_iff.1 evaluated
  cases same
  have done := toOption_eq_some_iff.1 flattened
  exact ⟨latter, done, (overlapping.flatten_closes).1 "<root>" ["root"] .empty latter _
    (Arena.valid_empty overlapping) done⟩

end Spec

end Parlance
