import Parlance.Proofs.Grammar.Resolution

/-!
# Lists of candidates

Which terms a list of names stands for can be told from the definitions alone: the terms in the order
in which they are met, with the members of a phrase in its place, and each of them once. Resolution
gives the numbers of exactly these terms, at the root and in the lists of every term, whatever order
it hands the numbers out in.
-/

namespace Parlance

/-- A walk by names: the terms met, in order and each once, and the phrases entered. -/
structure Tour where
  met : List String
  entered : List String

namespace Tour

/-- A tour that has met nothing yet. -/
def start : Tour := ⟨[], []⟩

/-- Adds a term to those met, once. -/
def meet (tour : Tour) (name : String) : Tour :=
  if name ∈ tour.met then tour else { tour with met := tour.met ++ [name] }

/-- Enters a phrase. -/
def enter (tour : Tour) (name : String) : Tour := { tour with entered := name :: tour.entered }

end Tour

namespace Spec

/-- The names lead from one tour to another. A term is met; a phrase that has not been entered yet
is entered, and its members are gone through in its place. -/
inductive Tours (spec : Spec) : (names : List String) → (before after : Tour) → Prop where
  | nil {tour} : Tours spec [] tour tour
  | term {name definition names tour after}
      (defined : spec.definitions.get? name = some (.term definition))
      (rest : Tours spec names (tour.meet name) after) : Tours spec (name :: names) tour after
  | again {name members names tour after}
      (defined : spec.definitions.get? name = some (.phrase members)) (old : name ∈ tour.entered)
      (rest : Tours spec names tour after) : Tours spec (name :: names) tour after
  | phrase {name members names tour middle after}
      (defined : spec.definitions.get? name = some (.phrase members)) (new : name ∉ tour.entered)
      (inside : Tours spec members (tour.enter name) middle)
      (rest : Tours spec names middle after) : Tours spec (name :: names) tour after

/-- The names stand for these terms. -/
def Lists (spec : Spec) (names terms : List String) : Prop :=
  ∃ entered, spec.Tours names .start ⟨terms, entered⟩

/-- The description has all definitions of the other one. -/
def Includes (extended spec : Spec) : Prop :=
  ∀ name definition, spec.definitions.get? name = some definition →
    extended.definitions.get? name = some definition

variable {spec extended : Spec} {name : String} {names terms : List String} {tour middle after : Tour}

theorem Tours.cons (first : spec.Tours [name] tour middle) (rest : spec.Tours names middle after) :
    spec.Tours (name :: names) tour after := by
  cases first with
  | term defined nothing =>
      cases nothing
      exact .term defined rest
  | again defined old nothing =>
      cases nothing
      exact .again defined old rest
  | phrase defined new inside nothing =>
      cases nothing
      exact .phrase defined new inside rest

/-- Names lead a tour to one end only. -/
theorem Tours.unique {other : Tour} (first : spec.Tours names tour after)
    (second : spec.Tours names tour other) : after = other := by
  induction first generalizing other with
  | nil =>
      cases second
      rfl
  | term defined _ ih =>
      cases second with
      | term _ rest => exact ih rest
      | again again _ _ => simp [defined] at again
      | phrase again _ _ _ => simp [defined] at again
  | again defined old _ ih =>
      cases second with
      | term again _ => simp [defined] at again
      | again _ _ rest => exact ih rest
      | phrase _ new _ _ => exact absurd old new
  | phrase defined new _ _ ihInside ihRest =>
      cases second with
      | term again _ => simp [defined] at again
      | again _ old _ => exact absurd old new
      | phrase again _ inside rest =>
          cases defined.symm.trans again
          cases ihInside inside
          exact ihRest rest

/-- Further definitions do not change what names lead to. -/
theorem Tours.mono (includes : extended.Includes spec)
    (tours : spec.Tours names tour after) : extended.Tours names tour after := by
  induction tours with
  | nil => exact .nil
  | term defined _ ih => exact .term (includes _ _ defined) ih
  | again defined old _ ih => exact .again (includes _ _ defined) old ih
  | phrase defined new _ _ ihInside ihRest => exact .phrase (includes _ _ defined) new ihInside ihRest

theorem Lists.unique {others : List String} (first : spec.Lists names terms)
    (second : spec.Lists names others) : terms = others := by
  obtain ⟨_, first⟩ := first
  obtain ⟨_, second⟩ := second
  cases first.unique second
  rfl

theorem Lists.mono (includes : extended.Includes spec)
    (lists : spec.Lists names terms) : extended.Lists names terms := by
  obtain ⟨entered, tours⟩ := lists
  exact ⟨entered, tours.mono includes⟩

end Spec

/-- Options stay related by a weaker relation. -/
theorem optionRel_imp {α β : Type} {stronger weaker : α → β → Prop} {left : Option α}
    {right : Option β} (imp : ∀ first second, stronger first second → weaker first second)
    (rel : Option.Rel stronger left right) : Option.Rel weaker left right := by
  cases rel with
  | some related => exact .some (imp _ _ related)
  | none => exact .none

namespace Resolution

variable {spec : Spec} {name referrer : String} {names : List String} {ids : List TermId}
  {arena former latter : Arena} {walk : Walk} {tour : Tour} {term : Term}

namespace Arena

/-- The numbers are those of the names, one by one. -/
def Numbers (arena : Arena) (ids : List TermId) (names : List String) : Prop :=
  List.Forall₂ (fun id name => arena.idOf? name = some id) ids names

/-- The numbers are those of the terms that the names stand for. -/
def Flattens (spec : Spec) (arena : Arena) (names : List String) (ids : List TermId) : Prop :=
  ∃ terms, spec.Lists names terms ∧ arena.Numbers ids terms

/-- The lists of the term are the flattened lists of its definition. -/
def Lists (spec : Spec) (arena : Arena) (term : Term) : Prop :=
  ∃ definition, spec.definitions.get? term.name = some (.term definition) ∧
    arena.Flattens spec (definition.subgroups.getD []) term.subgroups ∧
    Option.Rel (arena.Flattens spec) definition.postgroups term.postgroups

/-- The lists of all complete terms are the flattened lists of their definitions. -/
def ListsAll (spec : Spec) (arena : Arena) : Prop :=
  ∀ (id : TermId) (term : Term), arena.slots[id]? = some (some term) → arena.Lists spec term

theorem Flattens.nil : arena.Flattens spec [] [] := ⟨[], ⟨[], .nil⟩, .nil⟩

/-- The latter arena has the numbers of the former one. -/
def Keeps (former latter : Arena) : Prop :=
  ∀ name id, former.idOf? name = some id → latter.idOf? name = some id

theorem Numbers.mono (keeps : former.Keeps latter) (numbers : former.Numbers ids names) :
    latter.Numbers ids names :=
  numbers.imp fun id name => keeps name id

theorem Flattens.mono (keeps : former.Keeps latter) (flattens : former.Flattens spec names ids) :
    latter.Flattens spec names ids := by
  obtain ⟨terms, lists, numbers⟩ := flattens
  exact ⟨terms, lists, numbers.mono keeps⟩

theorem Lists.mono (keeps : former.Keeps latter) (lists : former.Lists spec term) :
    latter.Lists spec term := by
  obtain ⟨definition, defined, subgroups, postgroups⟩ := lists
  exact ⟨definition, defined, subgroups.mono keeps,
    optionRel_imp (fun _ _ flattens => flattens.mono keeps) postgroups⟩

/-- Reserving a number for a new name lists nothing new. -/
theorem ListsAll.reserve (lists : arena.ListsAll spec) (new : arena.idOf? name = none) :
    (arena.reserve name).ListsAll spec := by
  intro id term held
  have keeps : arena.Keeps (arena.reserve name) := by
    intro other id given
    rw [idOf?_reserve, if_neg, given]
    rintro rfl
    rw [new] at given
    cases given
  rw [slots_reserve, List.getElem?_append] at held
  split at held
  · exact (lists id term held).mono keeps
  · obtain ⟨_, unfilled⟩ := List.getElem?_eq_some_iff.1 held
    simp at unfilled

theorem ListsAll.fill {id : TermId} (lists : arena.ListsAll spec) (listed : arena.Lists spec term) :
    (arena.fill id term).ListsAll spec := by
  intro other held found
  have keeps : arena.Keeps (arena.fill id term) := fun _ _ given => given
  simp only [Arena.fill, List.getElem?_set] at found
  split at found
  · split at found
    · cases found
      exact listed.mono keeps
    · cases found
  · exact (lists other held found).mono keeps

/-- In a valid arena, a number is among others exactly if its name is among theirs. -/
theorem Valid.mem_iff (valid : arena.Valid spec) (numbers : arena.Numbers ids names) {id : TermId}
    (given : arena.idOf? name = some id) : id ∈ ids ↔ name ∈ names := by
  induction numbers with
  | nil => simp
  | @cons other first _ _ numbered _ ih =>
      have same : id = other ↔ name = first := by
        constructor
        · rintro rfl
          exact valid.apart name first id given numbered
        · rintro rfl
          exact Option.some.inj (given.symm.trans numbered)
      rw [List.mem_cons, List.mem_cons, same, ih]

end Arena

/-- The walk is the tour, with numbers in the place of names. -/
structure Walk.Follows (walk : Walk) (tour : Tour) : Prop where
  met : walk.arena.Numbers walk.met tour.met
  entered : walk.entered = tour.entered

theorem Walk.follows_start (arena : Arena) : (Walk.start arena).Follows .start := ⟨.nil, rfl⟩

/-- Meeting a term takes the walk along with the tour. -/
theorem Walk.Follows.meet (follows : walk.Follows tour) (valid : walk.arena.Valid spec)
    {id : TermId} (given : walk.arena.idOf? name = some id) :
    (walk.meet id).Follows (tour.meet name) := by
  have among := valid.mem_iff follows.met given
  refine ⟨?_, ?_⟩
  · rw [Walk.arena_meet]
    by_cases met : name ∈ tour.met
    · simpa [Walk.meet, Tour.meet, met, among] using follows.met
    · have added : walk.arena.Numbers (walk.met ++ [id]) (tour.met ++ [name]) :=
        List.rel_append follows.met (.cons given .nil)
      simpa [Walk.meet, Tour.meet, met, among] using added
  · rw [Walk.entered_meet, follows.entered, Tour.meet]
    split <;> rfl

/-- Flattening gives the numbers of the terms that the names stand for, and lists every term that
it completes. -/
def Flattening.Exact (spec : Spec) (bound : Nat) (flatten : Flattening) : Prop :=
  ∀ referrer names (arena latter : Arena) ids, arena.Valid spec →
    spec.depthLeft (.start arena) < bound → flatten referrer names arena = .ok (ids, latter) →
      (arena.ListsAll spec → latter.ListsAll spec) ∧ latter.Flattens spec names ids

/-- A walk through names goes where they lead a tour, and lists every term that it completes. -/
def Expansion.Exact (spec : Spec) (bound : Nat) (expand : Expansion) : Prop :=
  ∀ referrer names (walk latter : Walk) tour, walk.arena.Valid spec →
    (∀ id ∈ walk.met, id < walk.arena.slots.length) → spec.depthLeft walk < bound →
    walk.Follows tour → expand referrer names walk = .ok latter →
      (walk.arena.ListsAll spec → latter.arena.ListsAll spec) ∧
        ∃ after, spec.Tours names tour after ∧ latter.Follows after

section Completion

variable {definition : TermDefinition} {bound : Nat} {flatten : Flattening}
  (sound : flatten.Sound spec bound) (faithful : flatten.Exact spec bound)
  (defined : spec.definitions.get? name = some (.term definition)) (valid : arena.Valid spec)
  (within : ∀ latter, arena.Grows spec latter → spec.depthLeft (.start latter) < bound)
include faithful valid within

theorem postgroups_exact {postgroups : Option (List TermId)}
    (done : Resolution.postgroups flatten name definition arena = .ok (postgroups, latter)) :
    (arena.ListsAll spec → latter.ListsAll spec) ∧
      Option.Rel (latter.Flattens spec) definition.postgroups postgroups := by
  unfold Resolution.postgroups at done
  split at done
  · next names given =>
      obtain ⟨⟨ids, further⟩, flattened, same⟩ := bind_eq_ok_iff.1 done
      cases same
      obtain ⟨all, flattens⟩ :=
        faithful name names arena _ _ valid (within arena (.refl valid)) flattened
      rw [given]
      exact ⟨all, .some flattens⟩
  · next absent =>
      cases done
      rw [absent]
      exact ⟨id, .none⟩

theorem build_exact {start : Matcher} {body : TermBody}
    (done : build flatten name definition arena = .ok (start, body, latter)) :
    (arena.ListsAll spec → latter.ListsAll spec) ∧ ∀ term : Term, term.body = body →
      latter.Flattens spec (definition.subgroups.getD []) term.subgroups := by
  unfold build at done
  split at done
  · split at done
    · cases done
    · split at done
      · cases done
      · next unlisted =>
          obtain ⟨made, _, same⟩ := bind_eq_ok_iff.1 done
          cases same
          refine ⟨id, fun term shape => ?_⟩
          have none : definition.subgroups = none := by simpa using unlisted
          simpa [none, Term.subgroups, shape] using Arena.Flattens.nil
  · split at done
    · split at done
      · next names given =>
          obtain ⟨opening, _, done⟩ := bind_eq_ok_iff.1 done
          obtain ⟨closing, _, done⟩ := bind_eq_ok_iff.1 done
          obtain ⟨⟨ids, further⟩, flattened, same⟩ := bind_eq_ok_iff.1 done
          cases same
          obtain ⟨all, flattens⟩ :=
            faithful name names arena _ _ valid (within arena (.refl valid)) flattened
          refine ⟨all, fun term shape => ?_⟩
          simpa [given, Term.subgroups, shape] using flattens
      · cases done
    · cases done

include sound defined

/-- Completing a term lists it. -/
theorem complete_exact (done : complete flatten name definition arena = .ok (term, latter)) :
    (arena.ListsAll spec → latter.ListsAll spec) ∧ latter.Lists spec term := by
  obtain ⟨⟨postgroups, middle⟩, first, done⟩ := bind_eq_ok_iff.1 done
  obtain ⟨⟨start, body, further⟩, built, same⟩ := bind_eq_ok_iff.1 done
  cases same
  obtain ⟨grows, _, _⟩ := (postgroups_yields sound defined valid within).of_ok first
  have behind : ∀ latter, middle.Grows spec latter → spec.depthLeft (.start latter) < bound :=
    fun latter more => within latter (grows.trans more)
  obtain ⟨more, _, _⟩ := (build_yields sound defined grows.valid behind).of_ok built
  obtain ⟨all, flattened⟩ := postgroups_exact faithful valid within first
  obtain ⟨allBehind, subgroups⟩ := build_exact faithful grows.valid behind built
  exact ⟨fun lists => allBehind (all lists), definition, defined, subgroups _ rfl,
    optionRel_imp (fun _ _ flattens => flattens.mono more.names) flattened⟩

end Completion

/-- Numbering a term lists it, if its number is new. -/
theorem number_exact {bound : Nat} {flatten : Flattening} {definition : TermDefinition}
    (sound : flatten.Sound spec bound) (faithful : flatten.Exact spec bound)
    (defined : spec.definitions.get? name = some (.term definition)) (valid : arena.Valid spec)
    (within : arena.idOf? name = none → ∀ latter, (arena.reserve name).Grows spec latter →
      spec.depthLeft (.start latter) < bound) (lists : arena.ListsAll spec) {id : TermId}
    (done : number spec flatten name referrer arena = .ok (id, latter)) : latter.ListsAll spec := by
  unfold number at done
  split at done
  · cases done
    exact lists
  · next new =>
      simp only [defined] at done
      obtain ⟨⟨term, further⟩, completed, same⟩ := bind_eq_ok_iff.1 done
      cases same
      obtain ⟨all, listed⟩ := complete_exact sound faithful defined (valid.reserve new defined)
        (within new) completed
      exact (all (lists.reserve new)).fill listed

theorem flattenBy_exact {bound : Nat} {expand : Expansion} (faithful : expand.Exact spec bound) :
    (flattenBy expand).Exact spec bound := by
  intro referrer names arena latter ids valid within done
  obtain ⟨walk, walked, same⟩ := bind_eq_ok_iff.1 done
  cases same
  obtain ⟨all, after, tours, met⟩ := faithful referrer names (.start arena) walk .start valid
    (by simp [Walk.start]) within (Walk.follows_start arena) walked
  exact ⟨all, after.met, ⟨after.entered, tours⟩, met.met⟩

/-- Following one name goes where it leads a tour. -/
theorem follow_exact {bound : Nat} {expand : Expansion} (sound : expand.Sound spec bound)
    (faithful : expand.Exact spec bound) {after : Walk} (valid : walk.arena.Valid spec)
    (below : ∀ id ∈ walk.met, id < walk.arena.slots.length)
    (within : spec.depthLeft walk < bound + 1) (follows : walk.Follows tour)
    (done : follow spec expand referrer walk name = .ok after) :
    (walk.arena.ListsAll spec → after.arena.ListsAll spec) ∧
      ∃ tourAfter, spec.Tours [name] tour tourAfter ∧ after.Follows tourAfter := by
  unfold follow at done
  split at done
  · next members defined =>
      split at done
      · next again =>
          cases done
          have old : name ∈ tour.entered := by simpa [← follows.entered] using again
          exact ⟨id, tour, .again defined old .nil, follows⟩
      · next unentered =>
          have new : name ∉ tour.entered := by simpa [← follows.entered] using unentered
          have less := Spec.unentered_cons_lt defined (by simpa using unentered)
          have inside : ({ walk with entered := name :: walk.entered } : Walk).Follows
              (tour.enter name) := ⟨follows.met, congrArg (name :: ·) follows.entered⟩
          obtain ⟨all, tourAfter, tours, met⟩ :=
            faithful name members ⟨walk.arena, walk.met, name :: walk.entered⟩ after _ valid below
              (by simp only [Spec.depthLeft] at within ⊢; omega) inside done
          exact ⟨all, tourAfter, .phrase defined new tours .nil, met⟩
  · next definition defined =>
      obtain ⟨⟨id, latter⟩, numbered, same⟩ := bind_eq_ok_iff.1 done
      cases same
      have shallow : walk.arena.idOf? name = none → ∀ latter,
          (walk.arena.reserve name).Grows spec latter →
          spec.depthLeft (.start latter) < bound := by
        intro new latter grows
        have less := Spec.depthLeft_start_lt defined new grows
        omega
      obtain ⟨grows, given⟩ :=
        (number_yields (flattenBy_sound sound) defined valid shallow).of_ok numbered
      have all := fun lists => number_exact (flattenBy_sound sound) (flattenBy_exact faithful)
        defined valid shallow lists numbered
      have behind : ({ walk with arena := latter } : Walk).Follows tour :=
        ⟨follows.met.mono grows.names, follows.entered⟩
      exact ⟨by simpa using all, _, .term defined .nil, behind.meet grows.valid given⟩
  · cases done

/-- Walking through names goes where they lead a tour, as long as the fuel is more than the depth
left. -/
theorem expand_exact (spec : Spec) (fuel : Nat) : (expand spec fuel).Exact spec fuel := by
  induction fuel with
  | zero => exact fun _ _ _ _ _ _ _ within => absurd within (Nat.not_lt_zero _)
  | succ fuel ih =>
      intro referrer names walk latter tour valid below within tracks done
      rw [expand] at done
      induction names generalizing walk tour with
      | nil =>
          cases done
          exact ⟨id, tour, .nil, tracks⟩
      | cons name rest ihRest =>
          rw [List.foldlM_cons] at done
          obtain ⟨middle, first, behind⟩ := bind_eq_ok_iff.1 done
          have passes :=
            Yields.of_ok (follow_yields (expand_sound spec fuel) valid below within) first
          obtain ⟨all, tourBehind, tours, tracksBehind⟩ := follow_exact (expand_sound spec fuel) ih
            valid below within tracks first
          obtain ⟨allAfter, after, toursRest, tracksAfter⟩ := ihRest middle tourBehind
            passes.grows.valid passes.met (Nat.lt_of_le_of_lt passes.depthLeft_le within)
            tracksBehind behind
          exact ⟨fun lists => allAfter (all lists), after, tours.cons toursRest, tracksAfter⟩

theorem flatten_exact (spec : Spec) : (flatten spec).Exact spec (fuel spec) :=
  flattenBy_exact (expand_exact spec _)

theorem number_flatten_exact {definition : TermDefinition}
    (defined : spec.definitions.get? name = some (.term definition)) (valid : arena.Valid spec)
    (lists : arena.ListsAll spec) {id : TermId}
    (done : number spec (flatten spec) name referrer arena = .ok (id, latter)) :
    latter.ListsAll spec :=
  number_exact (flatten_sound spec) (flatten_exact spec) defined valid
    (fun _ latter _ => spec.depthLeft_start_lt_fuel latter) lists done

/-- Numbering all terms lists them. -/
theorem numberAll_exact (valid : arena.Valid spec) (lists : arena.ListsAll spec)
    (done : numberAll spec arena = .ok latter) : latter.ListsAll spec := by
  refine (foldlM_keeps (fun arena => arena.Valid spec ∧ arena.ListsAll spec) ?_
    ⟨valid, lists⟩ done).2
  rintro ⟨name, definition | members⟩ member former latter ⟨valid, lists⟩ step
  · have defined := spec.definitions.get?_of_mem member
    obtain ⟨⟨id, further⟩, numbered, same⟩ := map_eq_ok_iff.1 step
    cases same
    obtain ⟨grows, _⟩ := (number_flatten_yields defined valid).of_ok numbered
    exact ⟨grows.valid, number_flatten_exact defined valid lists numbered⟩
  · cases step
    exact ⟨valid, lists⟩

theorem aetherId_exact (valid : arena.Valid spec) (lists : arena.ListsAll spec)
    {aether : Option TermId} (done : aetherId spec arena = .ok (aether, latter)) :
    latter.ListsAll spec := by
  unfold aetherId at done
  split at done
  · cases done
    exact lists
  · split at done
    · next defined =>
        obtain ⟨⟨id, further⟩, numbered, same⟩ := bind_eq_ok_iff.1 done
        cases same
        exact number_flatten_exact defined valid lists numbered
    · cases done
    · cases done

/-- Terms are collected from slots that hold them. -/
theorem eq_map_of_collect {slots : List (Option Term)} {terms : List Term} {id : TermId}
    (done : collect id slots = .ok terms) : slots = terms.map some := by
  induction slots generalizing id terms with
  | nil =>
      cases done
      rfl
  | cons slot rest ih =>
      cases slot with
      | none => cases done
      | some term =>
          obtain ⟨others, collected, same⟩ := bind_eq_ok_iff.1 done
          cases same
          rw [ih collected, List.map_cons]

end Resolution

open Resolution in
/-- The arena with the terms and the numbers of the grammar. -/
def Grammar.arena (grammar : Grammar) : Arena := ⟨grammar.terms.map some, grammar.names⟩

open Resolution in
/-- The candidates at the root of a resolved grammar, and those in the lists of its terms, are the
terms that the names written down stand for. -/
theorem Spec.lists_of_resolve {spec : Spec} {grammar : Grammar}
    (resolved : spec.resolve = .ok grammar) :
    grammar.rootName = spec.root ∧ grammar.arena.Flattens spec [spec.root] grammar.root ∧
      ∀ id term, grammar.term? id = some term → grammar.arena.Lists spec term := by
  have defined := (resolved_of_resolve resolved).rooted spec.root .here
  rw [resolve, defined] at resolved
  obtain ⟨⟨root, first⟩, flattened, resolved⟩ := bind_eq_ok_iff.1 resolved
  obtain ⟨second, numbered, resolved⟩ := bind_eq_ok_iff.1 resolved
  obtain ⟨⟨aether, third⟩, chosen, resolved⟩ := bind_eq_ok_iff.1 resolved
  obtain ⟨terms, collected, same⟩ := bind_eq_ok_iff.1 resolved
  cases same
  have valid := Arena.valid_empty spec
  have shallow := spec.depthLeft_start_lt_fuel .empty
  have nothing : Arena.empty.ListsAll spec := by
    intro id term held
    cases held
  obtain ⟨listsFirst, flattens⟩ := flatten_exact spec "<root>" [spec.root] .empty first root
    valid shallow flattened
  have grows := ((flatten_sound spec "<root>" [spec.root] .empty valid shallow).of_ok
    flattened).grows
  obtain ⟨more, _⟩ := (numberAll_yields grows.valid).of_ok numbered
  obtain ⟨further, _⟩ := (aetherId_yields more.valid).of_ok chosen
  have listsSecond := numberAll_exact grows.valid (listsFirst nothing) numbered
  have listsThird := aetherId_exact more.valid listsSecond chosen
  refine ⟨rfl, flattens.mono (more.trans further).names, fun id term found => ?_⟩
  simp only [Grammar.term?, getElem?_markAether, Option.map_eq_some_iff] at found
  obtain ⟨former, found, rfl⟩ := found
  have lists := listsThird id former (by
    rw [eq_map_of_collect collected, List.getElem?_map, found, Option.map_some])
  split
  · exact lists
  · exact lists

end Parlance
