import Parlance.Proofs.Evaluation.Congruence
import Parlance.Proofs.Evaluation.Isolation
import Parlance.Proofs.Evaluation.Location
import Parlance.Proofs.Value.Mirror

/-!
# The temporary map overlays the maps of the caller

With a raw scope, names are assigned in the maps of the caller. By default they are assigned in a
temporary map in front of them, which overlays the maps of the caller: looking up a name through it
finds what is found in the changed maps of the caller in the raw case. That is all that can be told
apart in the two cases, as long as names are bound and the maps of the caller are met as values
nowhere.
-/

namespace Parlance

variable {host : Host} {base former latter : Heap} {frames : List MapRef} {value another : Value}
  {scope : MapRef} {locals : Option MapRef}

namespace Heap

/-- The value of the name in the first of the maps that has it. -/
def first? (heap : Heap) (frames : List MapRef) (name : String) : Option Value :=
  frames.findSome? fun frame => heap.get? frame name

theorem first?_cons (heap : Heap) (frame : MapRef) (frames : List MapRef) (name : String) :
    heap.first? (frame :: frames) name = (heap.get? frame name).or (heap.first? frames name) := by
  rw [first?, List.findSome?_cons]
  cases heap.get? frame name <;> rfl

theorem first?_append (heap : Heap) (frames others : List MapRef) (name : String) :
    heap.first? (frames ++ others) name = (heap.first? frames name).or (heap.first? others name) :=
  List.findSome?_append

/-- One of the maps has the name. -/
def Binds (heap : Heap) (frames : List MapRef) (name : String) : Prop :=
  ∃ frame ∈ frames, (heap.entries frame).contains name = true

theorem isSome_first?_iff (heap : Heap) (frames : List MapRef) (name : String) :
    (heap.first? frames name).isSome ↔ heap.Binds frames name :=
  List.findSome?_isSome_iff

/-- Names are found in maps that have not changed as before. -/
theorem first?_congr {name : String}
    (same : ∀ frame ∈ frames, former.get? frame name = latter.get? frame name) :
    former.first? frames name = latter.first? frames name := by
  induction frames with
  | nil => rfl
  | cons frame rest ih =>
      obtain ⟨here, there⟩ := List.forall_mem_cons.1 same
      rw [first?_cons, first?_cons, here, ih there]

end Heap

namespace Context

theorem lookup?_eq_first? (context : Context) (heap : Heap) (name : String) :
    context.lookup? heap name = heap.first? context.frames name := by
  obtain ⟨frames, temporary, strict⟩ := context
  induction frames with
  | nil => rfl
  | cons frame rest ih =>
      have next : lookup? ⟨rest, temporary, strict⟩ heap name = heap.first? rest name := ih
      rw [Heap.first?_cons, ← next, lookup?, holder?, List.find?_cons, Dictionary.contains]
      rw [← Heap.get?]
      cases present : heap.get? frame name with
      | none => rfl
      | some value => exact present

theorem contains_eq_first? (context : Context) (heap : Heap) (name : String) :
    context.contains heap name = (heap.first? context.frames name).isSome := by
  rw [← lookup?_eq_first?, contains]
  cases unbound : context.lookup? heap name with
  | none => rw [holder?_of_lookup? unbound]; rfl
  | some value =>
      obtain ⟨frame, held, _⟩ := Option.bind_eq_some_iff.1 unbound
      rw [held]
      rfl

/-- Behind an assignment the name has the value, and other names are found as before. -/
theorem first?_insert_target (context : Context) (made : context.WellMade) {heap : Heap}
    {name : String} {frame : MapRef} (given : frame.index < heap.maps.size)
    (target : context.target? heap name = some frame) (value : Value) (key : String) :
    (heap.insert frame name value).first? context.frames key =
      if key = name then some value else heap.first? context.frames key := by
  by_cases same : key = name
  · subst same
    rw [← lookup?_eq_first?, lookup?, holder?_insert made given target, if_pos rfl,
      Option.bind_some, Heap.get?_insert given, if_pos ⟨rfl, rfl⟩]
  · rw [if_neg same]
    refine Heap.first?_congr fun other _ => ?_
    rw [Heap.get?_insert given, if_neg fun both => same both.2]

end Context

/-- The former heap has what was assigned in the maps of the caller, and the latter heap has it in a
map in front of them. The heaps are otherwise like each other. -/
structure Heap.Overlays (base : Heap) (frames : List MapRef) (former latter : Heap) : Prop where
  mirrors : former.Mirrors base.maps.size frames latter
  bound : ∀ name, (former.first? frames name).isSome = (base.first? frames name).isSome
  defaults : ∀ name, latter.get? ⟨base.maps.size + 1⟩ name = constants.get? name
  overlaid : ∀ name, Option.Rel (Value.Corresponds (MapRef.Mirrored base.maps.size frames))
    (former.first? frames name) (latter.first? (⟨base.maps.size⟩ :: frames) name)

/-- The hidden maps, and the two maps more. -/
abbrev MapRef.reserved (start : Nat) (hidden : List MapRef) : List MapRef :=
  ⟨start⟩ :: ⟨start + 1⟩ :: hidden

namespace Heap.Overlays

variable (overlays : Heap.Overlays base frames former latter)
include overlays

/-- Changes elsewhere leave the overlay as it is. -/
theorem of_mirrors {former' latter' : Heap}
    (mirrors : former'.Mirrors base.maps.size frames latter')
    (spared : ∀ frame ∈ frames, ∀ name, former'.get? frame name = former.get? frame name)
    (sparedToo : ∀ frame ∈ MapRef.reserved base.maps.size frames, ∀ name,
      latter'.get? frame name = latter.get? frame name) :
    Heap.Overlays base frames former' latter' := by
  have own (name : String) : former'.first? frames name = former.first? frames name :=
    first?_congr fun frame member => spared frame member name
  have ownToo (name : String) : latter'.first? (⟨base.maps.size⟩ :: frames) name =
      latter.first? (⟨base.maps.size⟩ :: frames) name := by
    refine first?_congr fun frame member => sparedToo frame ?_ name
    rcases List.mem_cons.1 member with rfl | member
    · exact List.mem_cons_self
    · exact List.mem_cons_of_mem _ (List.mem_cons_of_mem _ member)
  refine ⟨mirrors, fun name => ?_, fun name => ?_, fun name => ?_⟩
  · rw [own, overlays.bound]
  · rw [sparedToo _ (List.mem_cons_of_mem _ List.mem_cons_self), overlays.defaults]
  · rw [own, ownToo]
    exact overlays.overlaid name

/-- A name that is bound has values in both heaps that correspond to each other. -/
theorem exists_values {name : String} (bound : (base.first? frames name).isSome) :
    ∃ value another, former.first? frames name = some value ∧
      latter.first? (⟨base.maps.size⟩ :: frames) name = some another ∧
      Value.Corresponds (MapRef.Mirrored base.maps.size frames) value another := by
  have rel := overlays.overlaid name
  rw [← overlays.bound, Option.isSome_iff_exists] at bound
  obtain ⟨value, found⟩ := bound
  rw [found] at rel
  generalize latter.first? _ name = other at rel ⊢
  cases rel with
  | some same => exact ⟨value, _, found, rfl, same⟩

/-- A name that is not bound has no value in either heap. -/
theorem first?_eq_none {name : String} (unbound : base.first? frames name = none) :
    former.first? frames name = none ∧
      latter.first? (⟨base.maps.size⟩ :: frames) name = none := by
  have rel := overlays.overlaid name
  have missing : former.first? frames name = none := by
    rw [← Option.isNone_iff_eq_none, ← Option.not_isSome, overlays.bound, unbound]
    rfl
  rw [missing] at rel
  generalize latter.first? _ name = other at rel ⊢
  cases rel
  exact ⟨missing, rfl⟩

/-- A write to the map of the caller that has the name is matched by a write to the map in front. -/
theorem assign (given : ∀ frame ∈ frames, frame.index < base.maps.size) {strict : Bool}
    {name : String} {frame : MapRef}
    (held : Context.holder? ⟨frames, none, strict⟩ former name = some frame)
    (same : Value.Corresponds (MapRef.Mirrored base.maps.size frames) value another) :
    Heap.Overlays base frames (former.insert frame name value)
      (latter.insert ⟨base.maps.size⟩ name another) := by
  have member : frame ∈ frames := List.mem_of_find?_eq_some held
  have within : frame.index < former.maps.size :=
    Nat.lt_of_lt_of_le (given frame member) overlays.mirrors.grown
  have withinToo : base.maps.size < latter.maps.size := by
    have grown := overlays.mirrors.grown
    have maps := overlays.mirrors.maps
    omega
  have target : Context.target? ⟨frames, none, strict⟩ former name = some frame := by
    rw [Context.target?, held]
  have caller (key : String) : (former.insert frame name value).first? frames key =
      if key = name then some value else former.first? frames key :=
    Context.first?_insert_target ⟨frames, none, strict⟩ (by rintro _ ⟨⟩) within target value key
  -- Reading through the temporary map is reading in a context that assigns to it.
  have front (key : String) : (latter.insert ⟨base.maps.size⟩ name another).first?
      (⟨base.maps.size⟩ :: frames) key =
      if key = name then some another else latter.first? (⟨base.maps.size⟩ :: frames) key :=
    Context.first?_insert_target ⟨⟨base.maps.size⟩ :: frames, some ⟨base.maps.size⟩, strict⟩
      (by rintro _ ⟨⟩; rfl) withinToo rfl another key
  refine ⟨overlays.mirrors.insert_hidden member name value another, ?_, ?_, ?_⟩
  · intro key
    rw [caller, ← overlays.bound]
    split
    · rename_i same
      have has := Context.contains_eq_first? ⟨frames, none, strict⟩ former name
      rw [Context.contains, held] at has
      rw [same, ← has]
      rfl
    · rfl
  · intro key
    rw [Heap.get?_insert_of_ne (by simp)]
    exact overlays.defaults key
  · intro key
    rw [caller, front]
    split
    · exact .some same
    · exact overlays.overlaid key

end Heap.Overlays

/-- Heaps look alike if the latter one has in a map in front of those of the caller what the former
one has in them. -/
def overlay (base : Heap) (frames : List MapRef)
    (given : ∀ frame ∈ frames, frame.index < base.maps.size) : Likeness where
  Linked := MapRef.Mirrored base.maps.size frames
  Alike := Heap.Overlays base frames
  oneToOne := MapRef.Mirrored.oneToOne
  lists overlays := overlays.mirrors.lists
  functions overlays := overlays.mirrors.functions
  items overlays := overlays.mirrors.items
  entry overlays := overlays.mirrors.entry
  setItems overlays _ _ all ref :=
    overlays.of_mirrors (overlays.mirrors.setItems all ref) (fun _ _ _ => rfl) fun _ _ _ => rfl
  insert := by
    intro former latter overlays ref other link value another same name
    refine overlays.of_mirrors (overlays.mirrors.insert link same name) ?_ ?_
    · intro frame member key
      refine Heap.get?_insert_of_ne ?_ name key _
      rintro rfl
      exact link.shown member
    · intro frame member key
      refine Heap.get?_insert_of_ne ?_ name key _
      rw [link.moved]
      rcases List.mem_cons.1 member with rfl | member
      · exact MapRef.past_ne (Nat.le_refl _) (by omega)
      · rcases List.mem_cons.1 member with rfl | member
        · exact MapRef.past_ne (by omega) (by omega)
        · intro same
          exact link.shown (MapRef.eq_of_past_eq (given frame member) same ▸ member)
  newList overlays _ _ all :=
    overlays.of_mirrors (overlays.mirrors.newList all) (fun _ _ _ => rfl) fun _ _ _ => rfl
  newFunction overlays name code :=
    overlays.of_mirrors (overlays.mirrors.newFunction name code) (fun _ _ _ => rfl) fun _ _ _ => rfl

/-- Runs end alike in the two modes, whatever errors they end with. -/
def modes (base : Heap) (frames : List MapRef)
    (given : ∀ frame ∈ frames, frame.index < base.maps.size) : Comparison where
  toLikeness := overlay base frames given
  Shared _ := True
  Alone _ _ := False
  shared _ _ := trivial

/-- Names that are bound are read and assigned alike in the two modes. -/
theorem modes_admits (given : ∀ frame ∈ frames, frame.index < base.maps.size) (strict : Bool) :
    (modes base frames given).Admits ⟨frames, none, strict⟩
      ⟨⟨base.maps.size⟩ :: (frames ++ [⟨base.maps.size + 1⟩]), some ⟨base.maps.size⟩, strict⟩
      fun name => (base.first? frames name).isSome where
  reads name bound := by
    intro former latter machines
    obtain ⟨value, another, found, foundToo, same⟩ := machines.heap.exists_values bound
    rw [Context.runOn_read, Context.runOn_read, Context.lookup?_eq_first?,
      Context.lookup?_eq_first?, ← List.cons_append, Heap.first?_append, found, foundToo]
    exact .alike (.ok same) machines
  writes name bound value another same := by
    intro former latter machines
    obtain ⟨_, _, found, foundToo, _⟩ := machines.heap.exists_values bound
    have has : Context.contains ⟨frames, none, strict⟩ former.heap name = true := by
      rw [Context.contains_eq_first?, found]
      rfl
    have hasToo : Context.contains ⟨⟨base.maps.size⟩ :: (frames ++ [⟨base.maps.size + 1⟩]),
        some ⟨base.maps.size⟩, strict⟩ latter.heap name = true := by
      rw [Context.contains_eq_first?, ← List.cons_append, Heap.first?_append, foundToo]
      rfl
    obtain ⟨frame, held⟩ := Option.isSome_iff_exists.1 has
    have overlays := machines.heap.assign given held same
    rw [Context.runOn_assign, Context.runOn_assign, has, hasToo, Context.target?, held]
    simp only [Bool.not_true, Bool.and_false, Bool.false_eq_true, if_false]
    exact .alike (.ok trivial) ⟨overlays, machines.calls⟩

/-- What the functions of the host do on a heap, they do on one that mirrors it, with what
corresponds to each other. They do not touch the hidden maps, nor the two maps more. -/
structure Host.Overlooks (host : Host) (start : Nat) (hidden : List MapRef) : Prop where
  uniform : ∀ function {receiver other arguments others former latter},
    Value.Corresponds (MapRef.Mirrored start hidden) receiver other →
    List.Forall₂ (Value.Corresponds (MapRef.Mirrored start hidden)) arguments others →
    former.Mirrors start hidden latter →
    Matches (fun _ => True) (Value.Corresponds (MapRef.Mirrored start hidden))
        (host function receiver arguments former).1 (host function other others latter).1 ∧
      (host function receiver arguments former).2.Mirrors start hidden
        (host function other others latter).2
  spares : ∀ function {receiver other arguments others former latter},
    Value.Corresponds (MapRef.Mirrored start hidden) receiver other →
    List.Forall₂ (Value.Corresponds (MapRef.Mirrored start hidden)) arguments others →
    former.Mirrors start hidden latter →
    (∀ frame ∈ hidden,
        (host function receiver arguments former).2.entries frame = former.entries frame) ∧
      ∀ frame ∈ MapRef.reserved start hidden,
        (host function other others latter).2.entries frame = latter.entries frame

theorem Host.Overlooks.trusts (overlooks : host.Overlooks base.maps.size frames)
    (given : ∀ frame ∈ frames, frame.index < base.maps.size) :
    (modes base frames given).Trusts host := by
  intro function receiver other arguments others former latter same all overlays
  obtain ⟨results, mirrors⟩ := overlooks.uniform function same all overlays.mirrors
  obtain ⟨spared, sparedToo⟩ := overlooks.spares function same all overlays.mirrors
  refine ⟨results, Heap.Overlays.of_mirrors overlays mirrors ?_ ?_⟩
  · intro frame member key
    rw [Heap.get?, spared frame member, Heap.get?]
  · intro frame member key
    rw [Heap.get?, sparedToo frame member, Heap.get?]

/-- A value in a heap with good handles corresponds to itself unless it is a hidden map. -/
theorem Heap.Closed.corresponds (closed : base.Closed)
    (unmet : ∀ frame ∈ frames, ∀ owner, ¬base.Holds owner (.map frame)) {owner : Value}
    (holds : base.Holds owner value) :
    value.Corresponds (MapRef.Mirrored base.maps.size frames) value := by
  have good : base.Has value := by
    cases holds with
    | item member => exact closed.items _ _ member
    | entry present => exact closed.entries _ _ _ present
  cases value with
  | map ref =>
      exact .map ⟨fun member => unmet ref member owner holds, (MapRef.past_of_lt good).symm⟩
  | _ => exact .same (by simp)

/-- What the names have on a heap with the maps that are made with a context. -/
theorem Heap.get?_newMaps (base : Heap) (ref : MapRef) (name : String) :
    ((base.newMap .empty).2.newMap constants).2.get? ref name =
      if ref.index = base.maps.size + 1 then constants.get? name
      else if ref.index = base.maps.size then none else base.get? ref name := by
  rw [Heap.get?, entries_newMap, entries_newMap, size_newMap]
  split
  · rfl
  · split <;> rfl

theorem Heap.get?_newMaps_of_lt {ref : MapRef} (old : ref.index < base.maps.size) (name : String) :
    ((base.newMap .empty).2.newMap constants).2.get? ref name = base.get? ref name := by
  rw [get?_newMaps, if_neg (by omega), if_neg (by omega)]

theorem Heap.Closed.rel_get? (closed : base.Closed)
    (unmet : ∀ frame ∈ frames, ∀ owner, ¬base.Holds owner (.map frame)) (ref : MapRef)
    (name : String) : Option.Rel (Value.Corresponds (MapRef.Mirrored base.maps.size frames))
      (base.get? ref name) (base.get? ref name) := by
  cases present : base.get? ref name with
  | none => exact .none
  | some value => exact .some (closed.corresponds unmet (.entry present))

/-- The heap is mirrored in the one with the maps that are made with a context. -/
theorem Heap.Closed.mirrors (closed : base.Closed)
    (unmet : ∀ frame ∈ frames, ∀ owner, ¬base.Holds owner (.map frame)) :
    base.Mirrors base.maps.size frames ((base.newMap .empty).2.newMap constants).2 where
  lists := rfl
  maps := by rw [size_newMap, size_newMap]
  functions := rfl
  grown := Nat.le_refl _
  items ref := List.forall₂_same.2 fun item member => closed.corresponds unmet (.item member)
  entry := by
    rintro ref _ ⟨shown, rfl⟩ name
    by_cases old : ref.index < base.maps.size
    · rw [MapRef.past_of_lt old, get?_newMaps_of_lt old]
      exact closed.rel_get? unmet ref name
    · have missing : base.get? ref name = none := get?_of_not_given old name
      have missingToo : base.get? ⟨ref.index + 2⟩ name = none :=
        get?_of_not_given (by simp only; omega) name
      rw [MapRef.past, if_neg old, get?_newMaps, if_neg (by simp only; omega),
        if_neg (by simp only; omega), missing, missingToo]
      exact .none

/-- With the maps that are made with a context, nothing is assigned yet. -/
theorem Heap.Closed.overlays (closed : base.Closed)
    (given : ∀ frame ∈ frames, frame.index < base.maps.size)
    (unmet : ∀ frame ∈ frames, ∀ owner, ¬base.Holds owner (.map frame)) :
    Heap.Overlays base frames base ((base.newMap .empty).2.newMap constants).2 where
  mirrors := closed.mirrors unmet
  bound _ := rfl
  defaults name := by rw [get?_newMaps, if_pos rfl]
  overlaid name := by
    have caller : ((base.newMap .empty).2.newMap constants).2.first? frames name =
        base.first? frames name := first?_congr fun frame member =>
      get?_newMaps_of_lt (given frame member) name
    rw [first?_cons, get?_newMaps, if_neg (by simp), if_pos rfl, Option.none_or, caller]
    cases present : base.first? frames name with
    | none => exact .none
    | some value =>
        obtain ⟨frame, _, present⟩ := List.exists_of_findSome?_eq_some present
        exact .some (closed.corresponds unmet (.entry present))

/-- How a run on the maps of the caller and a run with a temporary map in front of them end. Both
have one result and have made the same calls, their heaps mirror each other apart from the maps of
the caller, and a name has one value in both, unless it is that of a constant and bound nowhere. -/
structure ModesAgree (base : Heap) (scope : MapRef) (locals : Option MapRef) (notStrict : Bool)
    (given : ∀ frame ∈ callerFrames scope locals, frame.index < base.maps.size)
    (raw own : Except EvalError Value × Machine) : Prop where
  result : Matches (fun _ => True)
    (Value.Corresponds (MapRef.Mirrored base.maps.size (callerFrames scope locals))) raw.1 own.1
  calls : List.Forall₂ (HostCall.Alike (overlay base (callerFrames scope locals) given))
    raw.2.calls own.2.calls
  heap : raw.2.heap.Mirrors base.maps.size (callerFrames scope locals) own.2.heap
  lookup : ∀ name, base.Binds (callerFrames scope locals) name ∨ constants.contains name = false →
    Option.Rel (Value.Corresponds (MapRef.Mirrored base.maps.size (callerFrames scope locals)))
      ((Context.make base scope locals ⟨true, notStrict⟩).1.lookup? raw.2.heap name)
      ((Context.make base scope locals ⟨false, notStrict⟩).1.lookup? own.2.heap name)
  constant : ∀ name, ¬base.Binds (callerFrames scope locals) name →
    (Context.make base scope locals ⟨true, notStrict⟩).1.lookup? raw.2.heap name = none ∧
      (Context.make base scope locals ⟨false, notStrict⟩).1.lookup? own.2.heap name =
        constants.get? name

/-- The context with a temporary map is over that map, the maps of the caller and the constants. -/
theorem Context.make_default (base : Heap) (scope : MapRef) (locals : Option MapRef)
    (notStrict : Bool) : make base scope locals ⟨false, notStrict⟩ =
      (⟨⟨base.maps.size⟩ :: (callerFrames scope locals ++ [⟨base.maps.size + 1⟩]),
          some ⟨base.maps.size⟩, !notStrict⟩,
        ((base.newMap .empty).2.newMap constants).2) := by
  simp only [make, Bool.false_eq_true, if_false, callerFrames, List.append_assoc,
    List.cons_append, List.nil_append, Prod.mk.injEq, mk.injEq, and_true]
  rw [← base.size_newMap .empty]
  exact ⟨rfl, rfl⟩

/-- Behind the temporary map and the maps of the caller, a name has the value of its constant. -/
theorem Heap.Overlays.lookup?_default
    (overlays : Heap.Overlays base (callerFrames scope locals) former latter) (notStrict : Bool)
    (name : String) : (Context.make base scope locals ⟨false, notStrict⟩).1.lookup? latter name =
      (latter.first? (⟨base.maps.size⟩ :: callerFrames scope locals) name).or
        (constants.get? name) := by
  have last : latter.first? [⟨base.maps.size + 1⟩] name = constants.get? name := by
    rw [first?_cons, overlays.defaults]
    exact Option.or_none
  rw [Context.make_default, Context.lookup?_eq_first?, ← List.cons_append, first?_append, last]

theorem ModesAgree.of_ends {notStrict : Bool}
    {given : ∀ frame ∈ callerFrames scope locals, frame.index < base.maps.size}
    {raw own : Except EvalError Value × Machine}
    (ends : (modes base (callerFrames scope locals) given).Ends
      (modes base (callerFrames scope locals) given).Same raw own) :
    ModesAgree base scope locals notStrict given raw own := by
  cases ends with
  | alone reason => exact reason.elim
  | @alike result other former latter results machines =>
      have overlays : Heap.Overlays base (callerFrames scope locals) former.heap latter.heap :=
        machines.heap
      have caller (name : String) : (Context.make base scope locals
          ⟨true, notStrict⟩).1.lookup? former.heap name =
            former.heap.first? (callerFrames scope locals) name :=
        Context.lookup?_eq_first? _ _ _
      refine ⟨results, machines.calls, overlays.mirrors, ?_, ?_⟩
      · intro name known
        rw [caller, overlays.lookup?_default]
        cases bound : (base.first? (callerFrames scope locals) name) with
        | some _ =>
            obtain ⟨value, another, found, foundToo, same⟩ :=
              overlays.exists_values (Option.isSome_of_eq_some bound)
            rw [found, foundToo]
            exact .some same
        | none =>
            obtain ⟨missing, missingToo⟩ := overlays.first?_eq_none bound
            have noConstant : constants.get? name = none := by
              rw [← Heap.isSome_first?_iff, bound] at known
              simpa [Dictionary.contains] using known
            rw [missing, missingToo, noConstant]
            exact .none
      · intro name never
        rw [← Heap.isSome_first?_iff, Option.not_isSome_iff_eq_none] at never
        obtain ⟨missing, missingToo⟩ := overlays.first?_eq_none never
        rw [caller, overlays.lookup?_default, missing, missingToo]
        exact ⟨rfl, rfl⟩

/-- With a raw scope and without one an expression is evaluated to the same end, if its names are
bound and the maps of the caller are in no list and no map and are not touched by the host. -/
theorem Expr.modes_agree (closed : base.Closed)
    (given : ∀ frame ∈ callerFrames scope locals, frame.index < base.maps.size)
    (unmet : ∀ frame ∈ callerFrames scope locals, ∀ owner, ¬base.Holds owner (.map frame))
    (overlooks : host.Overlooks base.maps.size (callerFrames scope locals)) (expr : Expr)
    (bound : ∀ name ∈ expr.symbols, base.Binds (callerFrames scope locals) name)
    (notStrict : Bool) :
    ModesAgree base scope locals notStrict given
      ((expr.evaluateWith host scope locals ⟨true, notStrict⟩).runOn (.ofHeap base))
      ((expr.evaluateWith host scope locals ⟨false, notStrict⟩).runOn (.ofHeap base)) := by
  have agrees := (expr.meaning_agrees (overlooks.trusts given) (modes_admits given !notStrict)
    fun name member => (base.isSome_first?_iff _ name).2 (bound name member)).value
  refine ModesAgree.of_ends ?_
  -- Without a temporary map the heap is the given one; with it, two maps have been made before.
  have raw : (expr.evaluateWith host scope locals ⟨true, notStrict⟩).runOn (.ofHeap base) =
      (expr.evaluate host ⟨callerFrames scope locals, none, !notStrict⟩).runOn (.ofHeap base) := rfl
  have own : (expr.evaluateWith host scope locals ⟨false, notStrict⟩).runOn (.ofHeap base) =
      (expr.evaluate host (Context.make base scope locals ⟨false, notStrict⟩).1).runOn
        (.ofHeap (Context.make base scope locals ⟨false, notStrict⟩).2) := rfl
  rw [raw, own, Context.make_default]
  exact agrees _ _ ⟨closed.overlays given unmet, .nil⟩

section

theorem notingHost_overlooks (start : Nat) (hidden : List MapRef) :
    notingHost.Overlooks start hidden where
  uniform := by
    intro function receiver other arguments others former latter _ all mirrors
    refine ⟨.ok (.same (by simp)), mirrors.setItems ?_ ⟨0⟩⟩
    exact List.rel_append (mirrors.items ⟨0⟩) all
  spares _ _ _ _ _ _ _ _ _ _ := ⟨fun _ _ => rfl, fun _ _ => rfl⟩

/-- What is on the desk has a good handle and is no map. -/
theorem desk_has {owner : Value} (holds : desk.Holds owner value) :
    desk.Has value ∧ ∀ ref, value ≠ .map ref := by
  cases holds with
  | @item ref _ member =>
      obtain ⟨_ | _ | index⟩ := ref
      · cases member
      · rw [List.mem_singleton.1 member]
        exact ⟨trivial, by simp⟩
      · cases member
  | @entry ref name _ present =>
      obtain ⟨_ | _ | index⟩ := ref
      · have bound := Dictionary.mem_of_get?_ofList present
        simp only [List.mem_cons, Prod.mk.injEq, List.not_mem_nil, or_false] at bound
        rcases bound with ⟨_, rfl⟩ | ⟨_, rfl⟩ | ⟨_, rfl⟩
        · exact ⟨trivial, by simp⟩
        · exact ⟨Nat.one_lt_two, by simp⟩
        · exact ⟨trivial, by simp⟩
      · have bound := Dictionary.mem_of_get?_ofList present
        simp only [List.mem_cons, Prod.mk.injEq, List.not_mem_nil, or_false] at bound
        obtain ⟨_, rfl⟩ := bound
        exact ⟨trivial, by simp⟩
      · cases present

theorem desk_closed : desk.Closed :=
  ⟨fun _ _ member => (desk_has (.item member)).1, fun _ _ _ present => (desk_has (.entry present)).1⟩

theorem desk_unmet : ∀ frame ∈ callerFrames ⟨0⟩ (some ⟨1⟩), ∀ owner,
    ¬desk.Holds owner (.map frame) :=
  fun frame _ _ holds => (desk_has holds).2 frame rfl

theorem desk_given : ∀ frame ∈ callerFrames ⟨0⟩ (some ⟨1⟩), frame.index < desk.maps.size := by
  decide

/-- Reading the item steps the count twice, in the scope or in front of it, and tells the host
once. -/
theorem modes_agree_countedItem :
    ((countedItem.evaluateWith notingHost ⟨0⟩ (some ⟨1⟩) ⟨true, false⟩).runOn
        (.ofHeap desk)).2.calls.length = 1 ∧
      ModesAgree desk ⟨0⟩ (some ⟨1⟩) false desk_given
        ((countedItem.evaluateWith notingHost ⟨0⟩ (some ⟨1⟩) ⟨true, false⟩).runOn (.ofHeap desk))
        ((countedItem.evaluateWith notingHost ⟨0⟩ (some ⟨1⟩) ⟨false, false⟩).runOn
          (.ofHeap desk)) := by
  refine ⟨rfl, Expr.modes_agree desk_closed desk_given desk_unmet (notingHost_overlooks _ _)
    countedItem ?_ false⟩
  have names : countedItem.symbols = ["items", "note", "count", "count"] := rfl
  rw [names]
  have inScope (name : String) (has : (desk.entries ⟨0⟩).contains name = true) :
      desk.Binds (callerFrames ⟨0⟩ (some ⟨1⟩)) name := ⟨⟨0⟩, by decide, has⟩
  simp only [List.forall_mem_cons]
  exact ⟨inScope _ rfl, inScope _ rfl, inScope _ rfl, inScope _ rfl, nofun⟩

/-- A name that neither map of the caller has need not have one value in both modes: it may be that
of a constant. -/
theorem not_modes_lookup :
    ¬∀ (host : Host) (base : Heap) (scope : MapRef) (locals : Option MapRef) (expr : Expr)
      (notStrict : Bool), base.Closed →
      (∀ frame ∈ callerFrames scope locals, frame.index < base.maps.size) →
      (∀ frame ∈ callerFrames scope locals, ∀ owner, ¬base.Holds owner (.map frame)) →
      host.Overlooks base.maps.size (callerFrames scope locals) →
      (∀ name ∈ expr.symbols, base.Binds (callerFrames scope locals) name) → ∀ name,
      Option.Rel (Value.Corresponds (MapRef.Mirrored base.maps.size (callerFrames scope locals)))
        ((Context.make base scope locals ⟨true, notStrict⟩).1.lookup?
          ((expr.evaluateWith host scope locals ⟨true, notStrict⟩).runOn (.ofHeap base)).2.heap name)
        ((Context.make base scope locals ⟨false, notStrict⟩).1.lookup?
          ((expr.evaluateWith host scope locals ⟨false, notStrict⟩).runOn (.ofHeap base)).2.heap
            name) := by
  intro claimed
  have found : Option.Rel _ none (some (Value.bool true)) :=
    claimed notingHost desk ⟨0⟩ (some ⟨1⟩) (.symbol ⟨"identifier", 0, 5⟩ "count") false
      desk_closed desk_given desk_unmet (notingHost_overlooks _ _)
      (fun name member => ⟨⟨0⟩, by decide, List.mem_singleton.1 member ▸ rfl⟩) "true"
  cases found

end

end Parlance
