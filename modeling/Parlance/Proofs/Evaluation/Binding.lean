import Parlance.Proofs.Evaluation.Overlay

/-!
# Names over a run of assignments

A context is made over the maps of a caller, and values are assigned to names one after the other.
However long that goes on, a name has the value that was last assigned to it, an assignment is
refused only to an unknown name in a strict context, and the maps change in the way that the mode
allows: not at all by default, and one map at a time with a raw scope.
-/

namespace Parlance

/-- The value that the last assignment to the name gives it. -/
def lastAssigned? (assignments : List (String × Value)) (name : String) : Option Value :=
  assignments.reverse.lookup name

theorem lastAssigned?_cons (assigned : String) (value : Value) (rest : List (String × Value))
    (name : String) : lastAssigned? ((assigned, value) :: rest) name =
      (lastAssigned? rest name).or (if name = assigned then some value else none) := by
  rw [lastAssigned?, List.reverse_cons, List.lookup_append, lastAssigned?, List.lookup_cons]
  by_cases same : name = assigned
  · simp [same]
  · simp [same, beq_false_of_ne same]

namespace Context

/-- Assigns the values to the names one after the other, whatever comes of each. What has been
carried out is given, and the machine behind all. -/
def assignEach (context : Context) :
    List (String × Value) → Machine → List (String × Value) × Machine
  | [], machine => ([], machine)
  | (name, value) :: rest, machine =>
      match (context.assign name value).runOn machine with
      | (.ok _, there) =>
          let (carriedOut, last) := context.assignEach rest there
          ((name, value) :: carriedOut, last)
      | (.error _, there) => context.assignEach rest there

/-- The context is strict and none of its maps has the name. -/
def Refuses (context : Context) (heap : Heap) (name : String) : Prop :=
  context.strict = true ∧ ∀ frame ∈ context.frames, (heap.entries frame).contains name = false

variable {context : Context} {heap : Heap} {machine : Machine} {name : String} {value : Value}
  {frame scope : MapRef} {locals : Option MapRef} {options : Options}

theorem contains_eq_false_iff : context.contains heap name = false ↔
    ∀ frame ∈ context.frames, (heap.entries frame).contains name = false := by
  simp [contains, holder?]

/-! ### One assignment -/

theorem runOn_assign_of_refuses (refuses : context.Refuses machine.heap name) :
    (context.assign name value).runOn machine = (.error (.undefinedVariable name), machine) := by
  rw [runOn_assign, refuses.1, contains_eq_false_iff.2 refuses.2]
  rfl

theorem runOn_assign_of_not_refuses (accepted : ¬context.Refuses machine.heap name)
    (target : context.target? machine.heap name = some frame) :
    (context.assign name value).runOn machine =
      (.ok (), { machine with heap := machine.heap.insert frame name value }) := by
  have goesOn : (context.strict && !context.contains machine.heap name) = false := by
    cases strict : context.strict with
    | false => rfl
    | true =>
        cases known : context.contains machine.heap name with
        | true => rfl
        | false => exact absurd ⟨strict, contains_eq_false_iff.1 known⟩ accepted
  rw [runOn_assign, goesOn, target]
  rfl

/-- Every assignment that is not refused has a map to write to. -/
theorem exists_target (nonempty : context.frames ≠ []) (heap : Heap) (name : String) :
    ∃ frame, context.target? heap name = some frame := by
  rw [target?]
  split
  · exact ⟨_, rfl⟩
  · exact ⟨_, rfl⟩
  · exact ⟨_, List.getLast?_eq_some_getLast nonempty⟩

/-! ### Runs -/

/-- What every write keeps, a run of assignments keeps. -/
theorem assignEach_keeps {holds : Heap → Prop} (nonempty : context.frames ≠ [])
    (keeps : ∀ heap name frame value, holds heap → context.target? heap name = some frame →
      holds (heap.insert frame name value)) (assignments : List (String × Value))
    (start : holds machine.heap) : holds (context.assignEach assignments machine).2.heap := by
  induction assignments generalizing machine with
  | nil => exact start
  | cons assignment rest ih =>
      obtain ⟨name, value⟩ := assignment
      rw [assignEach]
      by_cases refuses : context.Refuses machine.heap name
      · rw [runOn_assign_of_refuses refuses]
        exact ih start
      · obtain ⟨frame, target⟩ := exists_target nonempty machine.heap name
        rw [runOn_assign_of_not_refuses refuses target]
        exact ih (keeps machine.heap name frame value start target)

/-- A name is found as it was last assigned, or else as it was found before the run. -/
theorem lookup?_assignEach (made : context.WellMade) (nonempty : context.frames ≠ [])
    (assignments : List (String × Value)) (within : context.Within machine.heap) (name : String) :
    context.lookup? (context.assignEach assignments machine).2.heap name =
      (lastAssigned? (context.assignEach assignments machine).1 name).or
        (context.lookup? machine.heap name) := by
  induction assignments generalizing machine with
  | nil => rfl
  | cons assignment rest ih =>
      obtain ⟨assigned, value⟩ := assignment
      rw [assignEach]
      by_cases refuses : context.Refuses machine.heap assigned
      · rw [runOn_assign_of_refuses refuses]
        exact ih within
      · obtain ⟨frame, target⟩ := exists_target nonempty machine.heap assigned
        have given := within.1 frame (mem_of_target? made target)
        have grown := Heap.extends_insert machine.heap frame assigned value
        have behind := @ih ⟨machine.heap.insert frame assigned value, machine.calls⟩
          (within.mono grown)
        rw [runOn_assign_of_not_refuses refuses target]
        dsimp only
        rw [behind, lastAssigned?_cons, Option.or_assoc]
        congr 1
        rw [lookup?_eq_first?, first?_insert_target context made given target, lookup?_eq_first?]
        by_cases same : name = assigned <;> simp [same]

/-! ### Contexts over the maps of a caller -/

/-- With a raw scope the context is over the maps of the caller. -/
theorem make_raw (heap : Heap) (scope : MapRef) (locals : Option MapRef)
    (raw : options.rawScope = true) : make heap scope locals options =
      (⟨callerFrames scope locals, none, !options.notStrict⟩, heap) := by
  rw [make, raw]
  rfl

/-- With a raw scope the first map that has the name is written to, or else the scope. -/
theorem target?_raw (heap : Heap) (scope : MapRef) (locals : Option MapRef) (strict : Bool)
    (name : String) : target? ⟨callerFrames scope locals, none, strict⟩ heap name =
      some (((callerFrames scope locals).find? fun frame =>
        (heap.entries frame).contains name).getD scope) := by
  rw [target?, holder?]
  cases (callerFrames scope locals).find? fun frame => (heap.entries frame).contains name with
  | some frame => rfl
  | none => simp [callerFrames]

/-- What a run of assignments in a context over the maps of a caller has come to. The context was
made on the heap `base`. -/
structure Bound (base : Heap) (scope : MapRef) (locals : Option MapRef) (options : Options)
    (carriedOut : List (String × Value)) (machine : Machine) : Prop where
  found : ∀ name, (make base scope locals options).1.lookup? machine.heap name =
    (lastAssigned? carriedOut name).or
      ((make base scope locals options).1.lookup? (make base scope locals options).2 name)
  refuses : ∀ name value, (make base scope locals options).1.Refuses machine.heap name →
    ((make base scope locals options).1.assign name value).runOn machine =
      (.error (.undefinedVariable name), machine)
  accepts : ∀ name value, ¬(make base scope locals options).1.Refuses machine.heap name →
    ∃ frame, ((make base scope locals options).1.assign name value).runOn machine =
        (.ok (), { machine with heap := machine.heap.insert frame name value }) ∧
      (options.rawScope = false → (make base scope locals options).1.temporary = some frame) ∧
      (options.rawScope = true → frame = ((callerFrames scope locals).find? fun frame =>
        (machine.heap.entries frame).contains name).getD scope)
  spares : options.rawScope = false → ∃ temporary defaults,
    (make base scope locals options).1 = ⟨temporary :: (callerFrames scope locals ++ [defaults]),
      some temporary, !options.notStrict⟩ ∧
    temporary ∉ callerFrames scope locals ++ [defaults] ∧
    machine.heap.entries defaults = constants ∧
    ∀ frame ∈ callerFrames scope locals, machine.heap.entries frame = base.entries frame
  gainsNothing : options.rawScope = true → ∀ frame ∈ locals, frame ≠ scope → ∀ name,
    (machine.heap.entries frame).contains name = true → (base.entries frame).contains name = true

theorem frames_make_ne_nil (base : Heap) (scope : MapRef) (locals : Option MapRef)
    (options : Options) : (make base scope locals options).1.frames ≠ [] := by
  cases raw : options.rawScope <;> simp [make, raw]

/-- By default a run of assignments leaves all maps but the temporary one as they are. -/
theorem entries_assignEach_of_temporary {temporary other : MapRef} (nonempty : context.frames ≠ [])
    (own : context.temporary = some temporary) (different : temporary ≠ other)
    (assignments : List (String × Value)) (machine : Machine) :
    (context.assignEach assignments machine).2.heap.entries other = machine.heap.entries other := by
  have keeps (heap : Heap) (name : String) (frame : MapRef) (value : Value)
      (kept : heap.entries other = machine.heap.entries other)
      (target : context.target? heap name = some frame) :
      (heap.insert frame name value).entries other = machine.heap.entries other := by
    rw [target?, own] at target
    cases target
    rw [Heap.entries_insert_of_ne different, kept]
  exact assignEach_keeps nonempty keeps assignments rfl

/-- With a raw scope, a map other than the scope has no name after a write that it did not have
before. -/
theorem contains_of_insert_raw {strict : Bool} {written : MapRef} {key : String}
    (different : frame ≠ scope)
    (target : target? ⟨callerFrames scope locals, none, strict⟩ heap name = some written)
    (has : ((heap.insert written name value).entries frame).contains key = true) :
    (heap.entries frame).contains key = true := by
  by_cases same : key = name
  · subst same
    by_cases here : written = frame
    · -- The map is not the scope, so it is written to because it has the name.
      subst here
      rw [target?_raw, Option.some.injEq] at target
      cases holder : (callerFrames scope locals).find? fun frame =>
          (heap.entries frame).contains key with
      | none =>
          rw [holder] at target
          exact absurd target.symm different
      | some first =>
          rw [holder] at target
          cases target
          simpa using List.find?_some holder
    · rwa [Heap.entries_insert_of_ne here] at has
  · have found := heap.get?_insert_of_key_ne same written frame value
    rw [Heap.get?, Heap.get?] at found
    rwa [Dictionary.contains, found] at has

/-- With a raw scope, a map other than the scope gains no name in a run of assignments. -/
theorem contains_of_assignEach_raw {strict : Bool} {key : String} (different : frame ≠ scope)
    (assignments : List (String × Value))
    (has : (((assignEach ⟨callerFrames scope locals, none, strict⟩ assignments
      machine).2.heap).entries frame).contains key = true) :
    (machine.heap.entries frame).contains key = true := by
  have keeps (heap : Heap) (name : String) (written : MapRef) (value : Value)
      (kept : (heap.entries frame).contains key = true →
        (machine.heap.entries frame).contains key = true)
      (target : target? ⟨callerFrames scope locals, none, strict⟩ heap name = some written)
      (has : ((heap.insert written name value).entries frame).contains key = true) :
      (machine.heap.entries frame).contains key = true :=
    kept (contains_of_insert_raw different target has)
  exact assignEach_keeps (by simp [callerFrames]) keeps assignments id has

/-- However values are assigned to names in a context over the maps of a caller, a name has the
value last assigned to it, an assignment is refused only to an unknown name in a strict context,
and the maps of the caller change as the mode allows. -/
theorem assignEach_bound (given : ∀ frame ∈ callerFrames scope locals, frame.index < heap.maps.size)
    (options : Options) (assignments : List (String × Value)) (calls : List HostCall) :
    Bound heap scope locals options
      ((make heap scope locals options).1.assignEach assignments
        ⟨(make heap scope locals options).2, calls⟩).1
      ((make heap scope locals options).1.assignEach assignments
        ⟨(make heap scope locals options).2, calls⟩).2 := by
  have nonempty := frames_make_ne_nil heap scope locals options
  have givenLocals (frame : MapRef) (member : frame ∈ locals) : frame.index < heap.maps.size :=
    given frame (List.mem_append_left _ (Option.mem_toList.2 member))
  obtain ⟨within, made⟩ := make_within (given scope (by simp [callerFrames])) givenLocals options
  have notRaw (raw : options.rawScope = false) : options = ⟨false, options.notStrict⟩ := by
    rw [← raw]
  refine ⟨lookup?_assignEach made nonempty assignments within, fun _ _ => runOn_assign_of_refuses,
    ?_, ?_, ?_⟩
  · intro name value accepted
    obtain ⟨frame, target⟩ := exists_target nonempty _ name
    refine ⟨frame, runOn_assign_of_not_refuses accepted target, ?_, ?_⟩
    · intro raw
      rw [notRaw raw, make_default] at target ⊢
      exact target
    · intro raw
      rw [make_raw heap scope locals raw] at target ⊢
      rw [target?_raw] at target
      exact (Option.some.inj target).symm
  · intro raw
    rw [notRaw raw, make_default] at nonempty ⊢
    have others (frame : MapRef) (apart : (⟨heap.maps.size⟩ : MapRef) ≠ frame) :=
      entries_assignEach_of_temporary nonempty rfl apart assignments
        ⟨((heap.newMap .empty).2.newMap constants).2, calls⟩
    have before (frame : MapRef) (member : frame ∈ callerFrames scope locals) :
        (⟨heap.maps.size⟩ : MapRef) ≠ frame := by
      rintro rfl
      exact Nat.lt_irrefl _ (given _ member)
    have behind : (⟨heap.maps.size⟩ : MapRef) ≠ ⟨heap.maps.size + 1⟩ := by simp
    refine ⟨_, _, rfl, ?_, ?_, ?_⟩
    · rw [List.mem_append, List.mem_singleton]
      rintro (member | same)
      · exact before _ member rfl
      · exact behind same
    · rw [others _ behind, Heap.entries_newMap, if_pos (by simp)]
    · intro frame member
      have least := given frame member
      rw [others _ (before frame member), Heap.entries_newMap, Heap.size_newMap, if_neg (by omega),
        Heap.entries_newMap, if_neg (by omega)]
  · intro raw frame member different key has
    rw [make_raw heap scope locals raw] at has
    exact contains_of_assignEach_raw different assignments has

/-- With a raw scope, a strict context assigns the names that the maps on the desk have and refuses
the other one. -/
theorem assignEach_bound_desk :
    ∃ last, (make desk ⟨0⟩ (some ⟨1⟩) ⟨true, false⟩).1.assignEach
        [("last", .bool true), ("lost", .null), ("count", .null), ("last", .null)] ⟨desk, []⟩ =
          ([("last", .bool true), ("count", .null), ("last", .null)], last) ∧
      Bound desk ⟨0⟩ (some ⟨1⟩) ⟨true, false⟩
        [("last", .bool true), ("count", .null), ("last", .null)] last :=
  ⟨_, rfl, assignEach_bound desk_given ⟨true, false⟩
    [("last", .bool true), ("lost", .null), ("count", .null), ("last", .null)] []⟩

end Context

end Parlance
