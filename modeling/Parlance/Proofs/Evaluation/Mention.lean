import Parlance.Proofs.Evaluation.Overlay

/-!
# Names that are not mentioned do not matter

An expression is evaluated for two callers on one heap, each with a scope and local names of its
own. If the names that the expression mentions are bound to the same values for both, nothing tells
the two evaluations apart but the maps of the callers: these are hidden, which is to say that they
are met as values nowhere and that the host does not know them.
-/

namespace Parlance

/-- Who has an expression evaluated: a scope and, before it, local names if there are any. -/
structure Caller where
  scope : MapRef
  locals : Option MapRef

namespace Caller

/-- The maps of the caller, from the front. -/
abbrev frames (caller : Caller) : List MapRef := callerFrames caller.scope caller.locals

/-- The value of the name among the local names. -/
def local? (caller : Caller) (heap : Heap) (name : String) : Option Value :=
  caller.locals.bind fun frame => heap.get? frame name

/-- The maps of both callers. -/
abbrev hidden (caller other : Caller) : List MapRef := caller.frames ++ other.frames

/-- One map is scope and local names at once for both callers or for neither. -/
def LaidOutAs (caller other : Caller) : Prop :=
  caller.locals = some caller.scope ↔ other.locals = some other.scope

/-- The context of the caller, and the heap with the maps that are made with it. -/
abbrev context (caller : Caller) (base : Heap) (options : Options) : Context × Heap :=
  Context.make base caller.scope caller.locals options

end Caller

/-- The value is none of the maps. -/
def Value.Clear (hidden : List MapRef) (value : Value) : Prop :=
  ∀ frame ∈ hidden, value ≠ .map frame

namespace Heap

/-- No list and none of the other maps has a hidden map in it. -/
structure Conceals (heap : Heap) (hidden : List MapRef) : Prop where
  items : ∀ ref, ∀ value ∈ heap.items ref, value.Clear hidden
  entries : ∀ ref, ref ∉ hidden → ∀ name value, heap.get? ref name = some value →
    value.Clear hidden

/-- The heaps differ in the entries of the hidden maps at most. -/
structure SameOutside (hidden : List MapRef) (former latter : Heap) : Prop where
  lists : former.lists = latter.lists
  functions : former.functions = latter.functions
  maps : former.maps.size = latter.maps.size
  entries : ∀ ref, ref ∉ hidden → former.entries ref = latter.entries ref

end Heap

variable {hidden : List MapRef} {base former latter heap : Heap} {value another : Value}
  {values others : List Value} {name : String} {ref : MapRef}

/-- Values correspond to each other outside the hidden maps if they are the same one, and it is
none of these maps. -/
theorem corresponds_iff : Value.Corresponds (fun ref other => ref = other ∧ ref ∉ hidden) value
    another ↔ value = another ∧ value.Clear hidden := by
  constructor
  · rintro (noMap | ⟨rfl, shown⟩)
    · exact ⟨rfl, fun frame _ => noMap frame⟩
    · refine ⟨rfl, ?_⟩
      rintro frame member ⟨⟩
      exact shown member
  · rintro ⟨rfl, clear⟩
    cases value with
    | map ref => exact .map ⟨rfl, fun member => clear ref member rfl⟩
    | _ => exact .same (by simp)

theorem forall₂_corresponds_iff :
    List.Forall₂ (Value.Corresponds fun ref other => ref = other ∧ ref ∉ hidden) values others ↔
      values = others ∧ ∀ value ∈ values, value.Clear hidden := by
  constructor
  · intro all
    induction all with
    | nil => exact ⟨rfl, by simp⟩
    | cons first _ ih =>
        obtain ⟨rfl, clear⟩ := corresponds_iff.1 first
        obtain ⟨rfl, rest⟩ := ih
        exact ⟨rfl, List.forall_mem_cons.2 ⟨clear, rest⟩⟩
  · rintro ⟨rfl, clear⟩
    exact List.forall₂_same.2 fun value member => corresponds_iff.2 ⟨rfl, clear value member⟩

namespace Heap.Conceals

variable (conceals : heap.Conceals hidden)
include conceals

theorem setItems (clear : ∀ value ∈ values, value.Clear hidden) (ref : ListRef) :
    (heap.setItems ref values).Conceals hidden where
  items other value member := by
    rcases mem_of_setItems member with new | old
    · exact clear value new
    · exact conceals.items other value old
  entries := conceals.entries

theorem newList (clear : ∀ value ∈ values, value.Clear hidden) :
    (heap.newList values).2.Conceals hidden where
  items other value member := by
    rcases mem_of_newList member with new | old
    · exact clear value new
    · exact conceals.items other value old
  entries := conceals.entries

theorem insert (clear : value.Clear hidden) (ref : MapRef) (name : String) :
    (heap.insert ref name value).Conceals hidden where
  items := conceals.items
  entries other shown key found present := by
    rcases get?_of_insert present with rfl | old
    · exact clear
    · exact conceals.entries other shown key found old

end Heap.Conceals

namespace Heap.SameOutside

variable (outside : SameOutside hidden former latter)
include outside

theorem items (ref : ListRef) : former.items ref = latter.items ref := by
  rw [Heap.items, Heap.items, outside.lists]

theorem get? (shown : ref ∉ hidden) (name : String) :
    former.get? ref name = latter.get? ref name := by
  rw [Heap.get?, Heap.get?, outside.entries ref shown]

theorem setItems (values : List Value) (ref : ListRef) :
    SameOutside hidden (former.setItems ref values) (latter.setItems ref values) where
  lists := by rw [Heap.setItems, Heap.setItems, outside.lists]
  functions := outside.functions
  maps := outside.maps
  entries := outside.entries

theorem newList (values : List Value) :
    SameOutside hidden (former.newList values).2 (latter.newList values).2 where
  lists := by rw [Heap.newList, Heap.newList, outside.lists]
  functions := outside.functions
  maps := outside.maps
  entries := outside.entries

theorem newFunction (name : String) (code : FunctionCode) :
    SameOutside hidden (former.newFunction name code).2 (latter.newFunction name code).2 where
  lists := outside.lists
  functions := congrArg (· + 1) outside.functions
  maps := outside.maps
  entries := outside.entries

/-- The same write to a map that is not hidden. -/
theorem insert (shown : ref ∉ hidden) (name : String) (value : Value) :
    SameOutside hidden (former.insert ref name value) (latter.insert ref name value) where
  lists := outside.lists
  functions := outside.functions
  maps := by rw [size_insert, size_insert, outside.maps]
  entries other apart := by
    rw [Heap.insert, Heap.insert, entries_setEntries, entries_setEntries, outside.maps,
      outside.entries ref shown, outside.entries other apart]

/-- Any writes to hidden maps. -/
theorem insert_hidden {frame frameOther : MapRef} (member : frame ∈ hidden)
    (memberOther : frameOther ∈ hidden) (name : String) (value another : Value) :
    SameOutside hidden (former.insert frame name value) (latter.insert frameOther name another)
    where
  lists := outside.lists
  functions := outside.functions
  maps := by rw [size_insert, size_insert, outside.maps]
  entries other apart := by
    have ne {written : MapRef} (inside : written ∈ hidden) : written ≠ other := by
      rintro rfl
      exact apart inside
    rw [Heap.insert, Heap.insert, entries_setEntries, entries_setEntries,
      if_neg fun both => ne member both.1, if_neg fun both => ne memberOther both.1]
    exact outside.entries other apart

end Heap.SameOutside

/-! ### What two callers find -/

/-- The heaps differ in the maps of the callers at most, and the names are bound to the same values
for both callers: as they look them up, and map by map if the maps are told apart alike. -/
structure Caller.Agree (caller other : Caller) (names : String → Prop) (toldApart : Prop)
    (former latter : Heap) : Prop where
  outside : Heap.SameOutside (caller.hidden other) former latter
  conceals : former.Conceals (caller.hidden other)
  given : ∀ frame ∈ caller.hidden other, frame.index < former.maps.size
  found : ∀ name, names name →
    former.first? caller.frames name = latter.first? other.frames name
  clear : ∀ name, names name → ∀ value, former.first? caller.frames name = some value →
    value.Clear (caller.hidden other)
  bound : toldApart → ∀ name, names name →
    former.get? caller.scope name = latter.get? other.scope name ∧
      caller.local? former name = other.local? latter name

namespace Caller

variable {caller other : Caller} {names : String → Prop} {toldApart : Prop} {options : Options}
  {host : Host}

/-- The map that a caller's name is assigned in with a raw scope: that of the local names if it has
the name, or else the scope. -/
def target (caller : Caller) (heap : Heap) (name : String) : MapRef :=
  if (caller.local? heap name).isSome then caller.locals.getD caller.scope else caller.scope

theorem first?_frames (caller : Caller) (heap : Heap) (name : String) :
    heap.first? caller.frames name =
      (caller.local? heap name).or (heap.get? caller.scope name) := by
  obtain ⟨scope, _ | locals⟩ := caller
  · rw [frames, callerFrames, Option.toList_none, List.nil_append, Heap.first?_cons]
    exact Option.or_none
  · rw [frames, callerFrames, Option.toList_some, List.singleton_append, Heap.first?_cons,
      Heap.first?_cons]
    exact congrArg _ Option.or_none

theorem target?_raw (caller : Caller) (strict : Bool) (heap : Heap) (name : String) :
    Context.target? ⟨caller.frames, none, strict⟩ heap name = some (caller.target heap name) := by
  obtain ⟨scope, _ | locals⟩ := caller
  · rw [Context.target?, Context.holder?, target]
    cases held : (heap.entries scope).contains name <;> simp [callerFrames, local?, held]
  · rw [Context.target?, Context.holder?, target]
    have present : (heap.get? locals name).isSome = (heap.entries locals).contains name := rfl
    cases held : (heap.entries locals).contains name <;>
      cases heldToo : (heap.entries scope).contains name <;>
      simp [callerFrames, local?, held, heldToo, present]

theorem target_mem (caller : Caller) (heap : Heap) (name : String) :
    caller.target heap name ∈ caller.frames := by
  obtain ⟨scope, _ | locals⟩ := caller <;> rw [target] <;> split <;>
    simp [callerFrames]

theorem local?_insert {ref : MapRef} (given : ref.index < heap.maps.size) (caller : Caller)
    (name key : String) (value : Value) : caller.local? (heap.insert ref name value) key =
      if caller.locals = some ref ∧ key = name then some value else caller.local? heap key := by
  obtain ⟨scope, _ | locals⟩ := caller
  · simp [local?]
  · simp only [local?, Option.bind_some, Heap.get?_insert given, Option.some.injEq, eq_comm]

theorem local?_congr (same : ∀ frame ∈ caller.frames, former.get? frame name =
    latter.get? frame name) : caller.local? former name = caller.local? latter name := by
  obtain ⟨scope, _ | locals⟩ := caller
  · rfl
  · exact same locals (by simp [callerFrames])

namespace Agree

variable (agree : caller.Agree other names toldApart former latter)
include agree

/-- Changes elsewhere leave what the callers find as it is. -/
theorem of_outside {former' latter' : Heap}
    (outside : Heap.SameOutside (caller.hidden other) former' latter')
    (conceals : former'.Conceals (caller.hidden other))
    (grown : former.maps.size ≤ former'.maps.size)
    (spared : ∀ frame ∈ caller.hidden other, ∀ name,
      former'.get? frame name = former.get? frame name)
    (sparedToo : ∀ frame ∈ caller.hidden other, ∀ name,
      latter'.get? frame name = latter.get? frame name) :
    caller.Agree other names toldApart former' latter' := by
  have own (name : String) : former'.first? caller.frames name = former.first? caller.frames name :=
    Heap.first?_congr fun frame member => spared frame (List.mem_append_left _ member) name
  have ownToo (name : String) : latter'.first? other.frames name = latter.first? other.frames name :=
    Heap.first?_congr fun frame member => sparedToo frame (List.mem_append_right _ member) name
  refine ⟨outside, conceals, ?_, ?_, ?_, ?_⟩
  · exact fun frame member => Nat.lt_of_lt_of_le (agree.given frame member) grown
  · intro name known
    rw [own, ownToo, agree.found name known]
  · intro name known value present
    rw [own] at present
    exact agree.clear name known value present
  · intro apart name known
    have inLocals : caller.local? former' name = caller.local? former name :=
      local?_congr fun frame member => spared frame (List.mem_append_left _ member) name
    have inLocalsToo : other.local? latter' name = other.local? latter name :=
      local?_congr fun frame member => sparedToo frame (List.mem_append_right _ member) name
    rw [spared caller.scope (by simp [callerFrames]), sparedToo other.scope (by simp [callerFrames]),
      inLocals, inLocalsToo]
    exact agree.bound apart name known

theorem givenToo : ∀ frame ∈ caller.hidden other, frame.index < latter.maps.size := by
  rw [← agree.outside.maps]
  exact agree.given

/-- The same write to a map of neither caller. -/
theorem insert_shown {ref : MapRef} (shown : ref ∉ caller.hidden other) (name : String)
    (clear : value.Clear (caller.hidden other)) :
    caller.Agree other names toldApart (former.insert ref name value)
      (latter.insert ref name value) := by
  have spared (heap : Heap) : ∀ frame ∈ caller.hidden other, ∀ key,
      (heap.insert ref name value).get? frame key = heap.get? frame key := by
    intro frame member key
    refine Heap.get?_insert_of_ne ?_ name key value
    rintro rfl
    exact shown member
  exact agree.of_outside (agree.outside.insert shown name value)
    (agree.conceals.insert clear ref name) (Nat.le_of_eq (Heap.size_insert ..).symm)
    (spared former) (spared latter)

/-- The maps that a name is assigned in are told apart alike. -/
theorem target_iff (alike : toldApart → caller.LaidOutAs other) (apart : toldApart)
    (known : names name) :
    (caller.target former name = caller.scope ↔ other.target latter name = other.scope) ∧
      (caller.locals = some (caller.target former name) ↔
        other.locals = some (other.target latter name)) := by
  have same := (agree.bound apart name known).2
  have laidOut := alike apart
  rw [target, target, ← same]
  cases present : (caller.local? former name).isSome with
  | false => exact ⟨by simp, laidOut⟩
  | true =>
      have presentToo : (other.local? latter name).isSome := same ▸ present
      obtain ⟨scope, _ | locals⟩ := caller
      · cases present
      · obtain ⟨scopeOther, _ | localsOther⟩ := other
        · cases presentToo
        · simpa [LaidOutAs] using laidOut

/-- Each caller assigns the name in the map of its own that it is meant for. -/
theorem insert_target (alike : toldApart → caller.LaidOutAs other) (known : names name)
    (clear : value.Clear (caller.hidden other)) :
    caller.Agree other names toldApart (former.insert (caller.target former name) name value)
      (latter.insert (other.target latter name) name value) := by
  have member : caller.target former name ∈ caller.hidden other :=
    List.mem_append_left _ (caller.target_mem former name)
  have memberToo : other.target latter name ∈ caller.hidden other :=
    List.mem_append_right _ (other.target_mem latter name)
  have given := agree.given _ member
  have givenToo := agree.givenToo _ memberToo
  have found (key : String) : (former.insert (caller.target former name) name value).first?
      caller.frames key = if key = name then some value else former.first? caller.frames key :=
    Context.first?_insert_target ⟨caller.frames, none, true⟩ (by rintro _ ⟨⟩) given
      (caller.target?_raw true former name) value key
  have foundToo (key : String) : (latter.insert (other.target latter name) name value).first?
      other.frames key = if key = name then some value else latter.first? other.frames key :=
    Context.first?_insert_target ⟨other.frames, none, true⟩ (by rintro _ ⟨⟩) givenToo
      (other.target?_raw true latter name) value key
  refine ⟨agree.outside.insert_hidden member memberToo name value value,
    agree.conceals.insert clear _ name, ?_, ?_, ?_, ?_⟩
  · rw [Heap.size_insert]
    exact agree.given
  · intro key knownKey
    rw [found, foundToo, agree.found key knownKey]
  · intro key knownKey result present
    rw [found] at present
    split at present
    · cases present
      exact clear
    · exact agree.clear key knownKey result present
  · intro apart key knownKey
    obtain ⟨inScope, inLocals⟩ := agree.bound apart key knownKey
    obtain ⟨sameScope, sameLocals⟩ := agree.target_iff alike apart known
    rw [Heap.get?_insert given, Heap.get?_insert givenToo, local?_insert given,
      local?_insert givenToo, inScope, inLocals]
    simp only [sameScope, sameLocals, and_self]

end Agree

/-- Heaps look alike if the callers find the same in them and they are otherwise the same. -/
def likeness (caller other : Caller) (names : String → Prop) (toldApart : Prop) : Likeness where
  Linked ref another := ref = another ∧ ref ∉ caller.hidden other
  Alike := caller.Agree other names toldApart
  oneToOne := by
    rintro first second _ _ ⟨rfl, _⟩ ⟨rfl, _⟩
    rfl
  lists agree := congrArg Array.size agree.outside.lists
  functions agree := agree.outside.functions
  items {former latter} agree ref := by
    rw [← agree.outside.items ref]
    exact forall₂_corresponds_iff.2 ⟨rfl, agree.conceals.items ref⟩
  entry := by
    rintro former latter agree ref _ ⟨rfl, shown⟩ name
    rw [← agree.outside.get? shown name]
    cases present : former.get? ref name with
    | none => exact .none
    | some value =>
        exact .some (corresponds_iff.2 ⟨rfl, agree.conceals.entries ref shown name value present⟩)
  setItems := by
    intro former latter agree items others all ref
    obtain ⟨rfl, clear⟩ := forall₂_corresponds_iff.1 all
    exact agree.of_outside (agree.outside.setItems items ref) (agree.conceals.setItems clear ref)
      (Nat.le_refl _) (fun _ _ _ => rfl) fun _ _ _ => rfl
  insert := by
    rintro former latter agree ref _ ⟨rfl, shown⟩ value another same name
    obtain ⟨rfl, clear⟩ := corresponds_iff.1 same
    exact agree.insert_shown shown name clear
  newList := by
    intro former latter agree items others all
    obtain ⟨rfl, clear⟩ := forall₂_corresponds_iff.1 all
    exact agree.of_outside (agree.outside.newList items) (agree.conceals.newList clear)
      (Nat.le_refl _) (fun _ _ _ => rfl) fun _ _ _ => rfl
  newFunction agree name code :=
    agree.of_outside (agree.outside.newFunction name code)
      ⟨agree.conceals.items, agree.conceals.entries⟩ (Nat.le_refl _) (fun _ _ _ => rfl)
      fun _ _ _ => rfl

/-- Runs for the two callers end alike, whatever errors they end with. -/
def comparison (caller other : Caller) (names : String → Prop) (toldApart : Prop) :
    Comparison where
  toLikeness := caller.likeness other names toldApart
  Shared _ := True
  Alone _ _ := False
  shared _ _ := trivial

/-- The contexts serve the callers alike: as long as the callers agree, the names are looked up alike,
and assigning one writes to maps in such a way that the callers still agree. -/
structure Served (caller other : Caller) (names : String → Prop) (toldApart : Prop)
    (context otherContext : Context) : Prop where
  strict : context.strict = otherContext.strict
  reads : ∀ {former latter}, caller.Agree other names toldApart former latter →
    ∀ name, names name → context.lookup? former name = otherContext.lookup? latter name ∧
      ∀ value, context.lookup? former name = some value → value.Clear (caller.hidden other)
  writes : ∀ {former latter}, caller.Agree other names toldApart former latter →
    ∀ name, names name → ∀ value : Value, value.Clear (caller.hidden other) →
    ∃ frame frameOther, context.target? former name = some frame ∧
      otherContext.target? latter name = some frameOther ∧
      caller.Agree other names toldApart (former.insert frame name value)
        (latter.insert frameOther name value)

/-- Names are read and assigned alike in contexts that serve the callers alike. -/
theorem Served.admits {context otherContext : Context}
    (served : caller.Served other names toldApart context otherContext) :
    (caller.comparison other names toldApart).Admits context otherContext names where
  reads name known := by
    intro former latter machines
    obtain ⟨same, clear⟩ := served.reads machines.heap name known
    rw [Context.runOn_read, Context.runOn_read, ← same, ← served.strict]
    cases present : context.lookup? former.heap name with
    | some value => exact .alike (.ok (corresponds_iff.2 ⟨rfl, clear value present⟩)) machines
    | none =>
        dsimp only
        split
        · exact .alike (.error trivial) machines
        · exact .alike (.ok (Likeness.same_plain _ rfl)) machines
  writes name known value another sameValue := by
    intro former latter machines
    obtain ⟨rfl, clear⟩ := corresponds_iff.1 sameValue
    have same := (served.reads machines.heap name known).1
    have contains : context.contains former.heap name =
        otherContext.contains latter.heap name := by
      rw [Context.contains_eq_first?, Context.contains_eq_first?, ← Context.lookup?_eq_first?,
        ← Context.lookup?_eq_first?, same]
    obtain ⟨frame, frameOther, target, targetOther, agree⟩ :=
      served.writes machines.heap name known value clear
    rw [Context.runOn_assign, Context.runOn_assign, ← contains, ← served.strict, target,
      targetOther]
    split
    · exact .alike (.error trivial) machines
    · exact .alike (.ok trivial) ⟨agree, machines.calls⟩

/-- With raw scopes, names are assigned in the maps of the callers. -/
theorem served_raw (alike : toldApart → caller.LaidOutAs other) (strict : Bool) :
    caller.Served other names toldApart ⟨caller.frames, none, strict⟩
      ⟨other.frames, none, strict⟩ where
  strict := rfl
  reads agree name known := by
    rw [Context.lookup?_eq_first?, Context.lookup?_eq_first?]
    exact ⟨agree.found name known, agree.clear name known⟩
  writes {former latter} agree name known _ clear :=
    ⟨_, _, caller.target?_raw strict former name, other.target?_raw strict latter name,
      agree.insert_target alike known clear⟩

/-- With a temporary map in front and the constants behind, names are assigned in the temporary
map. -/
theorem served_default {temporary defaults : MapRef} (shown : temporary ∉ caller.hidden other)
    (shownToo : defaults ∉ caller.hidden other) (strict : Bool) :
    caller.Served other names toldApart
      ⟨temporary :: (caller.frames ++ [defaults]), some temporary, strict⟩
      ⟨temporary :: (other.frames ++ [defaults]), some temporary, strict⟩ where
  strict := rfl
  reads agree name known := by
    rw [Context.lookup?_eq_first?, Context.lookup?_eq_first?]
    simp only [Heap.first?_cons, Heap.first?_append, ← agree.found name known,
      ← agree.outside.get? shown name, ← agree.outside.get? shownToo name]
    refine ⟨rfl, fun value present => ?_⟩
    rcases Option.or_eq_some_iff.1 present with present | ⟨_, present⟩
    · exact agree.conceals.entries temporary shown name value present
    · rcases Option.or_eq_some_iff.1 present with present | ⟨_, present⟩
      · exact agree.clear name known value present
      · rcases Option.or_eq_some_iff.1 present with present | ⟨_, present⟩
        · exact agree.conceals.entries defaults shownToo name value present
        · cases present
  writes agree name _ _ clear :=
    ⟨temporary, temporary, rfl, rfl, agree.insert_shown shown name clear⟩

end Caller

/-! ### Evaluation for two callers -/

/-- The functions of the host neither read nor write hidden maps: on heaps that differ in these maps
at most they do the same, and they give none of them away. -/
structure Host.Ignores (host : Host) (hidden : List MapRef) : Prop where
  uniform : ∀ function receiver arguments {former latter : Heap}, former.Conceals hidden →
    Heap.SameOutside hidden former latter → receiver.Clear hidden →
    (∀ argument ∈ arguments, argument.Clear hidden) →
    (host function receiver arguments former).1 = (host function receiver arguments latter).1 ∧
      Heap.SameOutside hidden (host function receiver arguments former).2
        (host function receiver arguments latter).2
  conceals : ∀ function receiver arguments {heap : Heap}, heap.Conceals hidden →
    receiver.Clear hidden → (∀ argument ∈ arguments, argument.Clear hidden) →
    (host function receiver arguments heap).2.Conceals hidden ∧
      ∀ value, (host function receiver arguments heap).1 = .ok value → value.Clear hidden
  spares : ∀ function receiver arguments (heap : Heap),
    heap.maps.size ≤ (host function receiver arguments heap).2.maps.size ∧
      ∀ frame ∈ hidden,
        (host function receiver arguments heap).2.entries frame = heap.entries frame

/-- Calls of one function on the same values, on heaps that differ in the hidden maps at most. -/
structure HostCall.SameOutside (hidden : List MapRef) (call other : HostCall) : Prop where
  function : call.function = other.function
  receiver : call.receiver = other.receiver
  arguments : call.arguments = other.arguments
  heap : Heap.SameOutside hidden call.heap other.heap

/-- Two callers cannot tell runs for them apart by the names. Both runs give one result and make the
same calls, they leave all lists and all maps other than those of the callers alike, and the names
are bound alike afterwards. The binding of a name is what its caller finds under it, by a lookup
through all maps: this is what `found` compares, for every two callers. Which of a caller's maps the
binding stands in is no part of it, and `bound` compares each map for itself only if both callers
lay their maps out alike: with a raw scope, an assignment goes to the local names if they have the
name, and where one map is scope and local names at once, it changes the scope along with them. -/
structure Caller.RunsAlike (caller other : Caller) (base : Heap) (options : Options)
    (names : List String) {α : Type} (run runOther : Except EvalError α × Machine) : Prop where
  result : run.1 = runOther.1
  calls : List.Forall₂ (HostCall.SameOutside (caller.hidden other)) run.2.calls runOther.2.calls
  heap : Heap.SameOutside (caller.hidden other) run.2.heap runOther.2.heap
  found : ∀ name ∈ names, (caller.context base options).1.lookup? run.2.heap name =
    (other.context base options).1.lookup? runOther.2.heap name
  bound : (options.rawScope = true → caller.LaidOutAs other) → ∀ name ∈ names,
    run.2.heap.get? caller.scope name = runOther.2.heap.get? other.scope name ∧
      caller.local? run.2.heap name = other.local? runOther.2.heap name

section

variable {caller other : Caller} {names : String → Prop} {toldApart : Prop} {options : Options}
  {host : Host}

theorem Host.Ignores.trusts (ignores : host.Ignores (caller.hidden other)) :
    (caller.comparison other names toldApart).Trusts host := by
  intro function receiver receiverOther arguments others former latter same all agree
  obtain ⟨rfl, clear⟩ := corresponds_iff.1 same
  obtain ⟨rfl, allClear⟩ := forall₂_corresponds_iff.1 all
  obtain ⟨results, outside⟩ :=
    ignores.uniform function receiver arguments agree.conceals agree.outside clear allClear
  obtain ⟨conceals, given⟩ :=
    ignores.conceals function receiver arguments agree.conceals clear allClear
  have spared (heap : Heap) (frame : MapRef) (member : frame ∈ caller.hidden other)
      (key : String) :
      (host function receiver arguments heap).2.get? frame key = heap.get? frame key := by
    rw [Heap.get?, (ignores.spares function receiver arguments heap).2 frame member, Heap.get?]
  refine ⟨?_, agree.of_outside outside conceals
    (ignores.spares function receiver arguments former).1 (spared former) (spared latter)⟩
  rw [← results]
  cases result : (host function receiver arguments former).1 with
  | ok value => exact .ok (corresponds_iff.2 ⟨rfl, given value result⟩)
  | error _ => exact .error trivial

namespace Caller

/-- The callers agree on the heap that both start with. -/
theorem agree_base (given : ∀ frame ∈ caller.hidden other, frame.index < base.maps.size)
    (unmet : ∀ frame ∈ caller.hidden other, ∀ owner, ¬base.Holds owner (.map frame))
    (same : ∀ name, names name → base.get? caller.scope name = base.get? other.scope name ∧
      caller.local? base name = other.local? base name) :
    caller.Agree other names toldApart base base where
  outside := ⟨rfl, rfl, rfl, fun _ _ => rfl⟩
  conceals := by
    constructor
    · rintro ref value held frame member rfl
      exact unmet frame member _ (.item held)
    · rintro ref _ name value present frame member rfl
      exact unmet frame member _ (.entry present)
  given := given
  found name known := by
    obtain ⟨inScope, inLocals⟩ := same name known
    rw [first?_frames, first?_frames, inScope, inLocals]
  clear := by
    rintro name _ value present frame member rfl
    obtain ⟨holder, _, present⟩ := List.exists_of_findSome?_eq_some present
    exact unmet frame member _ (.entry present)
  bound _ := same

/-- The callers agree on the heap with the maps that are made with a context. -/
theorem Agree.newMaps (agree : caller.Agree other names toldApart base base) :
    caller.Agree other names toldApart ((base.newMap .empty).2.newMap constants).2
      ((base.newMap .empty).2.newMap constants).2 := by
  have spared (frame : MapRef) (member : frame ∈ caller.hidden other) (name : String) :
      ((base.newMap .empty).2.newMap constants).2.get? frame name = base.get? frame name :=
    Heap.get?_newMaps_of_lt (agree.given frame member) name
  refine agree.of_outside ⟨rfl, rfl, rfl, fun _ _ => rfl⟩ ⟨agree.conceals.items, ?_⟩ ?_ spared spared
  · intro ref shown name value present
    rw [Heap.get?_newMaps] at present
    split at present
    · rintro frame _ rfl
      cases isObject_constants present
    · split at present
      · cases present
      · exact agree.conceals.entries ref shown name value present
  · rw [Heap.size_newMap, Heap.size_newMap]
    omega

/-- The contexts that are made for the callers serve them alike, and the callers agree on the heaps
with the maps that are made with them. -/
theorem Agree.make (agree : caller.Agree other names
      (options.rawScope = true → caller.LaidOutAs other) base base) :
    caller.Served other names (options.rawScope = true → caller.LaidOutAs other)
        (caller.context base options).1 (other.context base options).1 ∧
      caller.Agree other names (options.rawScope = true → caller.LaidOutAs other)
        (caller.context base options).2 (other.context base options).2 := by
  obtain ⟨_ | _, notStrict⟩ := options
  · have apart (index : Nat) (new : base.maps.size ≤ index) :
        (⟨index⟩ : MapRef) ∉ caller.hidden other :=
      fun member => Nat.not_lt_of_le new (agree.given _ member)
    rw [context, context, Context.make_default, Context.make_default]
    exact ⟨served_default (apart _ (Nat.le_refl _)) (apart _ (Nat.le_succ _)) !notStrict,
      agree.newMaps⟩
  · exact ⟨served_raw (fun alike => alike rfl) !notStrict, agree⟩

/-- Steps that agree in the contexts that are made for the callers give runs that are alike. -/
theorem Agree.runsAlike {listed : List String} {α : Type} {related : α → α → Prop}
    {step stepOther : Eval α}
    (agree : caller.Agree other (· ∈ listed) (options.rawScope = true → caller.LaidOutAs other)
      base base)
    (steps : step.Agrees (caller.comparison other (· ∈ listed)
      (options.rawScope = true → caller.LaidOutAs other)) related stepOther)
    (equal : ∀ result another, related result another → result = another) :
    caller.RunsAlike other base options listed
      (step.runOn (.ofHeap (caller.context base options).2))
      (stepOther.runOn (.ofHeap (other.context base options).2)) := by
  obtain ⟨served, made⟩ := agree.make
  have ends := steps (.ofHeap (caller.context base options).2)
    (.ofHeap (other.context base options).2) ⟨made, .nil⟩
  generalize step.runOn _ = run at ends ⊢
  generalize stepOther.runOn _ = runOther at ends ⊢
  cases ends with
  | alone reason => exact reason.elim
  | @alike result another former latter results machines =>
      refine ⟨?_, ?_, machines.heap.outside,
        fun name known => (served.reads machines.heap name known).1, machines.heap.bound⟩
      · cases results with
        | ok here => exact congrArg Except.ok (equal _ _ here)
        | error _ => rfl
      · refine machines.calls.imp fun call callOther alike => ?_
        exact ⟨alike.function, (corresponds_iff.1 alike.receiver).1,
          (forall₂_corresponds_iff.1 alike.arguments).1, alike.heap.outside⟩

end Caller

/-- Evaluation and assignment depend on the names alone that the expression mentions. The maps of
both callers must be given out, be in no list and no map, be unknown to the host and be other than
the assigned value. -/
theorem Expr.runs_alike (given : ∀ frame ∈ caller.hidden other, frame.index < base.maps.size)
    (unmet : ∀ frame ∈ caller.hidden other, ∀ owner, ¬base.Holds owner (.map frame))
    (ignores : host.Ignores (caller.hidden other)) (expr : Expr)
    (same : ∀ name ∈ expr.symbols, base.get? caller.scope name = base.get? other.scope name ∧
      caller.local? base name = other.local? base name) (options : Options) :
    caller.RunsAlike other base options expr.symbols
        ((expr.evaluateWith host caller.scope caller.locals options).runOn (.ofHeap base))
        ((expr.evaluateWith host other.scope other.locals options).runOn (.ofHeap base)) ∧
      ∀ value : Value, value.Clear (caller.hidden other) →
        caller.RunsAlike other base options expr.symbols
          ((expr.assignWith host caller.scope caller.locals options value).runOn (.ofHeap base))
          ((expr.assignWith host other.scope other.locals options value).runOn (.ofHeap base)) := by
  have agree : caller.Agree other (· ∈ expr.symbols)
      (options.rawScope = true → caller.LaidOutAs other) base base :=
    Caller.agree_base given unmet same
  have agrees := expr.meaning_agrees ignores.trusts agree.make.1.admits fun _ known => known
  refine ⟨agree.runsAlike agrees.value fun _ _ here => (corresponds_iff.1 here).1, ?_⟩
  intro value clear
  exact agree.runsAlike (agrees.assign value value (corresponds_iff.2 ⟨rfl, clear⟩)) fun _ _ _ => rfl

/-- The scope of a caller without local names of its own gets a name, but that of a caller whose
scope is behind it as local names does not: map by map they are bound alike only if the maps are
told apart alike. -/
example :
    let base : Heap := ⟨#[], #[.ofList [("last", .null)], .ofList [("last", .null)]], 0⟩
    let assigned (locals : Option MapRef) := (((Expr.symbol ⟨"identifier", 0, 4⟩ "last").assignWith
      (fun _ _ _ heap => (.ok .null, heap)) ⟨0⟩ locals ⟨true, false⟩ (.bool true)).runOn
        (.ofHeap base)).2.heap.get? ⟨0⟩ "last"
    assigned (some ⟨0⟩) = some (.bool true) ∧ assigned (some ⟨1⟩) = some .null :=
  ⟨rfl, rfl⟩

section

theorem notingHost_ignores (hidden : List MapRef) : notingHost.Ignores hidden where
  uniform := by
    intro function receiver arguments former latter _ outside _ _
    have items := outside.items ⟨0⟩
    refine ⟨rfl, ?_⟩
    rw [notingHost, notingHost, Heap.pushItems, Heap.pushItems, items]
    exact outside.setItems _ ⟨0⟩
  conceals := by
    intro function receiver arguments heap conceals _ clear
    refine ⟨conceals.setItems ?_ ⟨0⟩, ?_⟩
    · intro item member
      rcases List.mem_append.1 member with member | member
      · exact conceals.items _ item member
      · exact clear item member
    · rintro _ ⟨⟩ frame _
      simp
  spares _ _ _ _ := ⟨Nat.le_refl _, fun _ _ => rfl⟩

/-- The desk, and a second scope on it with a name more. -/
def sharedDesk : Heap :=
  { desk with
    maps := desk.maps.push (.ofList [("count", .number 1), ("items", .list ⟨1⟩),
      ("note", .function ⟨0, "note", .host⟩), ("spare", .bool true)]) }

/-- The caller with the scope of the desk and local names. -/
def deskCaller : Caller := ⟨⟨0⟩, some ⟨1⟩⟩

/-- The caller with the second scope alone. -/
def deskGuest : Caller := ⟨⟨2⟩, none⟩

theorem sharedDesk_unmet {owner : Value} {frame : MapRef} :
    ¬sharedDesk.Holds owner (.map frame) := by
  intro holds
  generalize found : Value.map frame = part at holds
  cases holds with
  | @item ref _ member =>
      obtain ⟨_ | _ | index⟩ := ref
      · cases member
      · rw [List.mem_singleton.1 member] at found
        cases found
      · cases member
  | @entry ref name _ present =>
      subst found
      obtain ⟨_ | _ | _ | index⟩ := ref
      · simpa using Dictionary.mem_of_get?_ofList present
      · simpa using Dictionary.mem_of_get?_ofList present
      · simpa using Dictionary.mem_of_get?_ofList present
      · cases present

/-- The item is read and assigned to alike for the two callers, though the scopes are not one and
the same and only one caller has local names. -/
theorem runs_alike_countedItem :
    ((countedItem.evaluateWith notingHost ⟨0⟩ (some ⟨1⟩) ⟨true, false⟩).runOn
        (.ofHeap sharedDesk)).2.calls.length = 1 ∧
      deskCaller.RunsAlike deskGuest sharedDesk ⟨true, false⟩ countedItem.symbols
        ((countedItem.evaluateWith notingHost ⟨0⟩ (some ⟨1⟩) ⟨true, false⟩).runOn
          (.ofHeap sharedDesk))
        ((countedItem.evaluateWith notingHost ⟨2⟩ none ⟨true, false⟩).runOn (.ofHeap sharedDesk)) ∧
      deskCaller.RunsAlike deskGuest sharedDesk ⟨true, false⟩ countedItem.symbols
        ((countedItem.assignWith notingHost ⟨0⟩ (some ⟨1⟩) ⟨true, false⟩ .null).runOn
          (.ofHeap sharedDesk))
        ((countedItem.assignWith notingHost ⟨2⟩ none ⟨true, false⟩ .null).runOn
          (.ofHeap sharedDesk)) := by
  have given : ∀ frame ∈ deskCaller.hidden deskGuest, frame.index < sharedDesk.maps.size := by
    decide
  have same : ∀ name ∈ countedItem.symbols,
      sharedDesk.get? deskCaller.scope name = sharedDesk.get? deskGuest.scope name ∧
        deskCaller.local? sharedDesk name = deskGuest.local? sharedDesk name := by
    have names : countedItem.symbols = ["items", "note", "count", "count"] := rfl
    rw [names]
    simp only [List.forall_mem_cons]
    exact ⟨⟨rfl, rfl⟩, ⟨rfl, rfl⟩, ⟨rfl, rfl⟩, ⟨rfl, rfl⟩, nofun⟩
  obtain ⟨evaluated, assigned⟩ := Expr.runs_alike given (fun _ _ _ => sharedDesk_unmet)
    (notingHost_ignores _) countedItem same ⟨true, false⟩
  exact ⟨rfl, evaluated, assigned .null fun _ _ => by simp⟩

end

end

end Parlance
