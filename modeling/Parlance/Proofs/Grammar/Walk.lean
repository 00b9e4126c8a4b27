import Parlance.Proofs.Grammar.Arena

/-!
# Walks through a description

A walk goes deeper by entering a phrase or by beginning anew at a term without number, so there is a
bound on how much deeper it can go. When it is through with a name, whatever is met from the name is
defined.
-/

namespace Parlance

theorem countP_lt_countP {α : Type} {items : List α} {item : α} {first second : α → Bool}
    (member : item ∈ items) (less : ∀ other ∈ items, first other = true → second other = true)
    (not : first item = false) (holds : second item = true) :
    items.countP first < items.countP second := by
  obtain ⟨before, behind, rfl⟩ := List.append_of_mem member
  have least : before.countP first ≤ before.countP second :=
    List.countP_mono_left fun other among => less other (by simp [among])
  have leastBehind : behind.countP first ≤ behind.countP second :=
    List.countP_mono_left fun other among => less other (by simp [among])
  simp only [List.countP_append, List.countP_cons, not, holds, if_true, Bool.false_eq_true,
    if_false]
  omega

namespace Spec

open Resolution

variable {spec : Spec} {name : String} {former latter : Arena} {entered : List String}

/-- How many of the defined names have no number yet. -/
def unnumbered (spec : Spec) (arena : Arena) : Nat :=
  spec.definitions.keys.countP fun name => (arena.idOf? name).isNone

/-- How many of the defined names are none of these phrases. -/
def unentered (spec : Spec) (entered : List String) : Nat :=
  spec.definitions.keys.countP fun name => !entered.contains name

/-- A bound on how much deeper a walk can go: it enters the phrases that it has not entered, and
begins anew at every term that has no number. -/
def depthLeft (spec : Spec) (walk : Walk) : Nat :=
  spec.unnumbered walk.arena * (spec.definitions.size + 1) + spec.unentered walk.entered

theorem mem_keys {definition : Definition}
    (defined : spec.definitions.get? name = some definition) : name ∈ spec.definitions.keys :=
  List.mem_map.2 ⟨_, spec.definitions.mem_of_get? defined, rfl⟩

theorem unentered_le_size (spec : Spec) (entered : List String) :
    spec.unentered entered ≤ spec.definitions.size := by
  refine Nat.le_trans List.countP_le_length ?_
  simp [Dictionary.keys, Dictionary.size]

theorem unnumbered_le_size (spec : Spec) (arena : Arena) :
    spec.unnumbered arena ≤ spec.definitions.size := by
  refine Nat.le_trans List.countP_le_length ?_
  simp [Dictionary.keys, Dictionary.size]

theorem unnumbered_le (grows : former.Grows spec latter) :
    spec.unnumbered latter ≤ spec.unnumbered former := by
  refine List.countP_mono_left fun name _ new => ?_
  rw [Option.isNone_iff_eq_none] at new ⊢
  cases given : former.idOf? name with
  | none => rfl
  | some id =>
      rw [grows.names name id given] at new
      cases new

theorem unnumbered_reserve_lt {arena : Arena} {definition : Definition}
    (defined : spec.definitions.get? name = some definition) (new : arena.idOf? name = none) :
    spec.unnumbered (arena.reserve name) < spec.unnumbered arena := by
  refine countP_lt_countP (mem_keys defined) ?_ ?_ (by simp [new])
  · intro other _ absent
    rw [Arena.idOf?_reserve] at absent
    split at absent
    · cases absent
    · exact absent
  · rw [Arena.idOf?_reserve, if_pos rfl]
    rfl

theorem unentered_le {further : List String} (more : entered ⊆ further) :
    spec.unentered further ≤ spec.unentered entered := by
  refine List.countP_mono_left fun name _ absent => ?_
  simp only [Bool.not_eq_true', List.contains_eq_mem, decide_eq_false_iff_not] at absent ⊢
  exact fun member => absent (more member)

theorem unentered_cons_lt {definition : Definition}
    (defined : spec.definitions.get? name = some definition) (new : name ∉ entered) :
    spec.unentered (name :: entered) < spec.unentered entered := by
  refine countP_lt_countP (mem_keys defined) ?_ (by simp) (by simpa using new)
  simp

/-- A walk of its own in an arena with a new number has less depth left. -/
theorem depthLeft_start_lt {walk : Walk} {definition : Definition}
    (defined : spec.definitions.get? name = some definition) (new : walk.arena.idOf? name = none)
    (grows : (walk.arena.reserve name).Grows spec latter) :
    spec.depthLeft (.start latter) < spec.depthLeft walk := by
  have less : spec.unnumbered latter + 1 ≤ spec.unnumbered walk.arena :=
    Nat.lt_of_le_of_lt (unnumbered_le grows) (unnumbered_reserve_lt defined new)
  have scaled := Nat.mul_le_mul_right (spec.definitions.size + 1) less
  have bounded := spec.unentered_le_size []
  simp only [depthLeft, Walk.start]
  rw [Nat.add_mul, Nat.one_mul] at scaled
  omega

theorem depthLeft_start_lt_fuel (spec : Spec) (arena : Arena) :
    spec.depthLeft (.start arena) < fuel spec := by
  have scaled := Nat.mul_le_mul_right (spec.definitions.size + 1) (spec.unnumbered_le_size arena)
  have bounded := spec.unentered_le_size []
  simp only [depthLeft, Walk.start, fuel]
  rw [Nat.add_mul spec.definitions.size 1, Nat.one_mul]
  omega

end Spec

namespace Resolution

variable {spec : Spec} {name referrer : String} {names : List String} {arena : Arena} {walk : Walk}

/-- The name is defined, and if it is a phrase, the walk has entered it. -/
structure Walk.Covers (spec : Spec) (walk : Walk) (name : String) : Prop where
  defined : spec.definitions.contains name = true
  entered : ∀ members, spec.definitions.get? name = some (.phrase members) → name ∈ walk.entered

/-- The latter walk is the former one after going through the names. All phrases that it has entered
since then are done with. -/
structure Walk.Passes (spec : Spec) (names : List String) (former latter : Walk) : Prop where
  grows : former.arena.Grows spec latter.arena
  met : ∀ id ∈ latter.met, id < latter.arena.slots.length
  entered : former.entered ⊆ latter.entered
  covered : ∀ name ∈ names, latter.Covers spec name
  settled : ∀ phrase ∈ latter.entered, phrase ∉ former.entered → ∀ members,
    spec.definitions.get? phrase = some (.phrase members) → ∀ name ∈ members,
      latter.Covers spec name

@[simp] theorem Walk.arena_meet (walk : Walk) (id : TermId) :
    (walk.meet id).arena = walk.arena := by
  rw [meet]
  split <;> rfl

@[simp] theorem Walk.entered_meet (walk : Walk) (id : TermId) :
    (walk.meet id).entered = walk.entered := by
  rw [meet]
  split <;> rfl

theorem Walk.mem_met_meet {id other : TermId} :
    other ∈ (walk.meet id).met ↔ other = id ∨ other ∈ walk.met := by
  rw [meet]
  split
  · next among =>
      simp only [List.contains_eq_mem, decide_eq_true_eq] at among
      exact ⟨.inr, fun either => either.elim (fun same => same ▸ among) fun member => member⟩
  · rw [List.mem_append, List.mem_singleton, or_comm]

theorem Walk.Covers.mono {former latter : Walk} (covers : former.Covers spec name)
    (entered : former.entered ⊆ latter.entered) : latter.Covers spec name :=
  ⟨covers.defined, fun members defined => entered (covers.entered members defined)⟩

namespace Walk.Passes

theorem nil (valid : walk.arena.Valid spec)
    (below : ∀ id ∈ walk.met, id < walk.arena.slots.length) : walk.Passes spec [] walk :=
  ⟨.refl valid, below, fun _ member => member, by simp, fun _ member new => absurd member new⟩

/-- A name has been passed that is covered without entering phrases. -/
theorem single {latter : Walk} (grows : walk.arena.Grows spec latter.arena)
    (below : ∀ id ∈ latter.met, id < latter.arena.slots.length)
    (entered : latter.entered = walk.entered) (covers : latter.Covers spec name) :
    walk.Passes spec [name] latter where
  grows := grows
  met := below
  entered := by rw [entered]; exact fun _ member => member
  covered other member := by rwa [List.mem_singleton.1 member]
  settled phrase member new := absurd (entered ▸ member) new

theorem cons {former middle latter : Walk} (first : former.Passes spec [name] middle)
    (rest : middle.Passes spec names latter) : former.Passes spec (name :: names) latter where
  grows := first.grows.trans rest.grows
  met := rest.met
  entered := fun _ member => rest.entered (first.entered member)
  covered other member := by
    rcases List.mem_cons.1 member with rfl | member
    · exact (first.covered other (by simp)).mono rest.entered
    · exact rest.covered other member
  settled phrase member new members defined other among := by
    by_cases before : phrase ∈ middle.entered
    · exact (first.settled phrase before new members defined other among).mono rest.entered
    · exact rest.settled phrase member before members defined other among

/-- A phrase has been passed when its members have. -/
theorem phrase {latter : Walk} {members : List String}
    (defined : spec.definitions.get? name = some (.phrase members))
    (passes : { walk with entered := name :: walk.entered }.Passes spec members latter) :
    walk.Passes spec [name] latter where
  grows := passes.grows
  met := passes.met
  entered := fun _ member => passes.entered (List.mem_cons_of_mem _ member)
  covered other member := by
    rw [List.mem_singleton.1 member]
    exact ⟨by rw [Dictionary.contains, defined]; rfl, fun _ _ => passes.entered (by simp)⟩
  settled phrase member new inside same other among := by
    by_cases here : phrase = name
    · subst here
      rw [defined] at same
      cases same
      exact passes.covered other among
    · refine passes.settled phrase member ?_ inside same other among
      simpa [here] using new

/-- All that is met from the names that a walk from the start has passed is defined. -/
theorem grounded {latter : Walk} (passes : (Walk.start arena).Passes spec names latter)
    (member : name ∈ names) : spec.Grounded name := by
  intro met enters
  suffices latter.Covers spec met from this.defined
  induction enters with
  | here => exact passes.covered name member
  | member _ defined among ih =>
      exact passes.settled _ (ih.entered _ defined) (by simp [Walk.start]) _ defined _ among

/-- More depth is never left behind a walk than before it. -/
theorem depthLeft_le {former latter : Walk} (passes : former.Passes spec names latter) :
    spec.depthLeft latter ≤ spec.depthLeft former :=
  Nat.add_le_add (Nat.mul_le_mul_right _ (Spec.unnumbered_le passes.grows))
    (Spec.unentered_le passes.entered)

end Walk.Passes

end Resolution

end Parlance
