import Parlance.Proofs.Evaluation.Invocation
import Parlance.Proofs.Evaluation.Location
import Parlance.Proofs.Number.Truncation

/-!
# Slices

A bound of a slice stands for a position: it is cut to a whole number, counted from the end if it is
negative, and kept between the two ends. A slice has the items from one position to the other, so that
what is in front of a bound and what is behind it make up the list or string.
-/

namespace Parlance

open Binary

variable {α : Type} {heap former latter : Heap} {machine : Machine} {arguments : List Value}
  {length fallback : Nat} {number : Float}

/-! ### Positions -/

/-- The position of a place, which is counted from the end if it is negative, between the ends. -/
def clamp (length : Nat) (place : Int) : Nat :=
  (max 0 (min (length : Int) (if place < 0 then length + place else place))).toNat

/-- The position that a number stands for. -/
def clampedPlace (length : Nat) (number : Float) : Nat :=
  if number.isNaN then 0
  else if isFinite number then clamp length (ofFloat number).truncated
  else if isNegative number then 0
  else length

/-- The position that an argument stands for; a missing or undefined one stands for the default. -/
def clampedBound (heap : Heap) (length fallback : Nat) : Option Value → Nat
  | none => fallback
  | some .undefined => fallback
  | some value => clampedPlace length (value.toNumber heap)

theorem clamp_le (length : Nat) (place : Int) : clamp length place ≤ length := by
  unfold clamp
  omega

theorem clampedPlace_of_denotes {place : Int} (denotes : Denotes number place) :
    clampedPlace length number = clamp length place := by
  rw [clampedPlace, isNaN_of_isFinite denotes.finite, denotes.finite, denotes.truncated_eq]
  rfl

theorem denotes_intCast_zero : Denotes 0 ((0 : Int) : ℚ) := by
  rw [Int.cast_zero]
  exact denotes_zero .positive

theorem clampedPlace_zero (length : Nat) : clampedPlace length 0 = 0 := by
  rw [clampedPlace_of_denotes denotes_intCast_zero, clamp]
  omega

theorem clampedPlace_le (length : Nat) (number : Float) : clampedPlace length number ≤ length := by
  unfold clampedPlace
  split
  · exact Nat.zero_le _
  · split
    · exact clamp_le ..
    · split
      · exact Nat.zero_le _
      · exact le_rfl

theorem clampedBound_le (inside : fallback ≤ length) (argument : Option Value) :
    clampedBound heap length fallback argument ≤ length := by
  unfold clampedBound
  split
  · exact inside
  · exact inside
  · exact clampedPlace_le ..

theorem clampedBound_some {value : Value} (present : value ≠ .undefined) :
    clampedBound heap length fallback (some value) =
      clampedPlace length (value.toNumber heap) := by
  cases value with
  | undefined => exact absurd rfl present
  | _ => rfl

/-! ### Computed positions -/

/-- The position that is computed for a whole number. -/
def wholePlace (length : Nat) (whole : Float) : Nat :=
  if whole < 0 then (max (Float.ofNat length + whole) 0).toUInt64.toNat
  else min whole.toUInt64.toNat length

theorem sliceBound_some {value : Value} (present : value ≠ .undefined) :
    sliceBound heap length fallback (some value) =
      let number := value.toNumber heap
      wholePlace length (if number.isNaN then 0 else whole number) := by
  cases value with
  | undefined => exact absurd rfl present
  | _ => rfl

/-- Sums that are not exact lie in front of all items, where they make no difference. -/
theorem wholePlace_of_denotes (short : length < 2 * unit) {place : Int}
    (denotes : Denotes number place) : wholePlace length number = clamp length place := by
  have size : unit = 2 ^ 52 := rfl
  have greatest : greatestWord = 2 ^ 64 - 1 := rfl
  unfold wholePlace clamp
  split
  · rename_i below
    rw [denotes.lt_zero_iff, Int.cast_lt_zero] at below
    have counted := denotes_ofNat short
    rw [toNat_toUInt64_max_zero]
    by_cases outside : (length : Int) + place < 0
    · have signed := counted.hasSign_add denotes (by exact_mod_cast outside)
      rw [toNat_toUInt64_of_hasSign signed]
      omega
    · have sum : Denotes (Float.ofNat length + number) ((length + place : Int) : ℚ) := by
        rw [Int.cast_add, Int.cast_natCast]
        apply counted.add denotes
        rw [← Int.cast_natCast, ← Int.cast_add]
        exact isRepresentable_intCast (by omega)
      rw [sum.toNat_toUInt64]
      omega
  · rename_i above
    rw [denotes.lt_zero_iff, Int.cast_lt_zero] at above
    rw [denotes.toNat_toUInt64]
    omega

theorem wholePlace_of_infinite (short : length < 2 * unit) (infinite : isFinite number = false)
    (defined : number.isNaN = false) :
    wholePlace length number = if isNegative number then 0 else length := by
  have unpacks := unpack_of_infinite infinite defined
  unfold wholePlace
  cases negative : isNegative number with
  | true =>
      rw [negative] at unpacks
      have below : number < 0 := lt_zero_iff.2 (by rw [unpacks]; rfl)
      have signed := hasSign_add_of_infinite (denotes_ofNat short).finite unpacks
      rw [if_pos below, toNat_toUInt64_max_zero, toNat_toUInt64_of_hasSign signed]
      rfl
  | false =>
      rw [negative] at unpacks
      have above : ¬number < 0 := lt_zero_iff.not.2 (by rw [unpacks]; exact nofun)
      have fits : length ≤ greatestWord := by
        have size : unit = 2 ^ 52 := rfl
        have greatest : greatestWord = 2 ^ 64 - 1 := rfl
        omega
      rw [if_neg above, toNat_toUInt64, unpacks]
      exact Nat.min_eq_right (Nat.le_min.2 ⟨fits, fits⟩)

/-- What is not a number is taken for zero, and everything else is cut to a whole number. -/
theorem wholePlace_eq_clampedPlace (short : length < 2 * unit) (number : Float) :
    wholePlace length (if number.isNaN then 0 else whole number) = clampedPlace length number := by
  unfold clampedPlace
  split
  · rw [wholePlace_of_denotes short denotes_intCast_zero,
      ← clampedPlace_of_denotes denotes_intCast_zero, clampedPlace_zero]
  · rename_i defined
    cases finite : isFinite number with
    | true => exact wholePlace_of_denotes short (denotes_whole finite)
    | false =>
        rw [whole_of_infinite finite]
        exact wholePlace_of_infinite short finite (Bool.eq_false_iff.2 defined)

/-- What is computed for an argument is the position that it stands for. -/
theorem sliceBound_eq_clampedBound (short : length < 2 * unit) (argument : Option Value) :
    sliceBound heap length fallback argument = clampedBound heap length fallback argument := by
  cases argument with
  | none => rfl
  | some value =>
      by_cases present : value = .undefined
      · rw [present]
        rfl
      · rw [sliceBound_some present, clampedBound_some present]
        exact wholePlace_eq_clampedPlace short _

/-! ### Parts -/

/-- The part of a list between two positions; nothing if they cross. -/
structure IsPart (items : List α) (start stop : Nat) (part : List α) : Prop where
  start_le : start ≤ items.length
  stop_le : stop ≤ items.length
  crossed : stop ≤ start → part = []
  framed : start ≤ stop → ∃ front back, items = front ++ part ++ back ∧
    front.length = start ∧ back.length = items.length - stop

theorem isPart_drop_take {items : List α} {start stop : Nat} (inside : start ≤ items.length)
    (insideToo : stop ≤ items.length) : IsPart items start stop ((items.take stop).drop start) where
  start_le := inside
  stop_le := insideToo
  crossed crosses := List.drop_eq_nil_of_le ((List.length_take_le _ _).trans crosses)
  framed ordered := by
    have front := List.take_append_drop start (items.take stop)
    rw [List.take_take, Nat.min_eq_left ordered] at front
    refine ⟨items.take start, items.drop stop, ?_, List.length_take_of_le inside,
      List.length_drop⟩
    rw [front, List.take_append_drop]

/-- A slice is the part between the positions that its arguments stand for. -/
theorem isPart_sliceOf {items : List α} (short : items.length < 2 * unit) :
    IsPart items (clampedBound heap items.length 0 arguments[0]?)
      (clampedBound heap items.length items.length arguments[1]?)
      (sliceOf heap items arguments) := by
  unfold sliceOf
  rw [sliceBound_eq_clampedBound short, sliceBound_eq_clampedBound short]
  exact isPart_drop_take (clampedBound_le (Nat.zero_le _) _) (clampedBound_le le_rfl _)

/-- What is in front of a bound and what is behind it make up everything. -/
theorem sliceOf_append {items : List α} (short : items.length < 2 * unit) {cut : Value}
    (present : cut ≠ .undefined) :
    sliceOf heap items [.number 0, cut] ++ sliceOf heap items [cut] = items := by
  have front : sliceOf heap items [.number 0, cut] =
      items.take (clampedPlace items.length (cut.toNumber heap)) := by
    have start : clampedBound heap items.length 0 (some (.number 0)) = 0 := clampedPlace_zero _
    change (items.take (sliceBound heap items.length items.length (some cut))).drop
      (sliceBound heap items.length 0 (some (.number 0))) = _
    rw [sliceBound_eq_clampedBound short, sliceBound_eq_clampedBound short, start,
      clampedBound_some present, List.drop_zero]
  have back : sliceOf heap items [cut] =
      items.drop (clampedPlace items.length (cut.toNumber heap)) := by
    change (items.take items.length).drop (sliceBound heap items.length 0 (some cut)) = _
    rw [sliceBound_eq_clampedBound short, clampedBound_some present, List.take_length]
  rw [front, back, List.take_append_drop]

/-! ### The methods -/

theorem sliceBound_of_grows (closed : former.Closed) (grows : former.Grows latter)
    {argument : Option Value} (has : ∀ value ∈ argument, former.Has value) :
    sliceBound latter length fallback argument = sliceBound former length fallback argument := by
  cases argument with
  | none => rfl
  | some value =>
      by_cases present : value = .undefined
      · rw [present]
        rfl
      · rw [sliceBound_some present, sliceBound_some present,
          Value.toNumber_of_grows closed grows (has value rfl)]

/-- The arguments stand for the same positions while the heap grows. -/
theorem sliceOf_of_grows (closed : former.Closed) (grows : former.Grows latter)
    (has : ∀ argument ∈ arguments, former.Has argument) (items : List α) :
    sliceOf latter items arguments = sliceOf former items arguments := by
  have given : ∀ index : Nat, ∀ value ∈ arguments[index]?, former.Has value :=
    fun index value found => has value (List.mem_of_getElem? found)
  unfold sliceOf
  rw [sliceBound_of_grows closed grows (given 0), sliceBound_of_grows closed grows (given 1)]

section

variable (closed : former.Closed) (grows : former.Grows machine.heap)
  (has : ∀ argument ∈ arguments, former.Has argument) (host : Host)
include closed grows has

/-- Slicing a list makes a new list. -/
theorem runOn_slice_list {ref : ListRef} (given : former.Has (.list ref)) :
    ∃ part there,
      ((Value.list ref).invoke host "slice" arguments).runOn machine =
        (.ok (.list part), there) ∧
      there.heap.items part = sliceOf former (former.items ref) arguments ∧
      there.heap.Has (.list part) ∧ machine.heap.Grows there.heap := by
  let start := machine.withFunction "slice" (.listMethod .slice)
  have grown : former.Grows start.heap := grows.trans (machine.grows_withFunction _ _)
  let made := start.heap.newList (sliceOf start.heap (start.heap.items ref) arguments)
  have slices : ((Value.list ref).invoke host "slice" arguments).runOn machine =
      (.ok (.list made.1), { start with heap := made.2 }) := by
    rw [Value.runOn_invoke_list rfl]
    rfl
  refine ⟨made.1, { start with heap := made.2 }, slices, ?_, Heap.has_newList _ _,
    (machine.grows_withFunction _ _).trans (start.heap.grows_newList _)⟩
  rw [Heap.items_newList_new, sliceOf_of_grows closed grown has, grown.items ref given]

/-- Slicing a string makes no list. -/
theorem runOn_slice_string (text : String) :
    ∃ there,
      ((Value.string text).invoke host "slice" arguments).runOn machine =
        (.ok (.ofText (sliceOf former text.toList arguments)), there) ∧
      machine.heap.Grows there.heap := by
  have grown : former.Grows (machine.withFunction "slice" (.stringMethod .slice)).heap :=
    grows.trans (machine.grows_withFunction _ _)
  refine ⟨machine.withFunction "slice" (.stringMethod .slice), ?_, machine.grows_withFunction _ _⟩
  rw [Value.runOn_invoke_string rfl, ← sliceOf_of_grows closed grown has]
  rfl

end

/-- A slice of a list or a string is the part between the positions that its arguments stand for, and
the slices up to a bound and from this bound on make up the list or string, which stays as it is. -/
theorem slice_cuts_exactly (host : Host) (closed : machine.heap.Closed) :
    (∀ ref, machine.heap.Has (.list ref) → (machine.heap.items ref).length < 2 ^ 53 →
      (∀ cut, machine.heap.Has cut → cut ≠ .undefined → ∃ front back there later,
        ((Value.list ref).invoke host "slice" [.number 0, cut]).runOn machine =
          (.ok (.list front), there) ∧
        ((Value.list ref).invoke host "slice" [cut]).runOn there = (.ok (.list back), later) ∧
        later.heap.items front ++ later.heap.items back = machine.heap.items ref ∧
        machine.heap.Grows later.heap) ∧
      ∀ arguments, (∀ argument ∈ arguments, machine.heap.Has argument) → ∃ part there,
        ((Value.list ref).invoke host "slice" arguments).runOn machine =
          (.ok (.list part), there) ∧
        IsPart (machine.heap.items ref)
          (clampedBound machine.heap (machine.heap.items ref).length 0 arguments[0]?)
          (clampedBound machine.heap (machine.heap.items ref).length
            (machine.heap.items ref).length arguments[1]?)
          (there.heap.items part) ∧
        machine.heap.Grows there.heap) ∧
    ∀ text : String, text.toList.length < 2 ^ 53 →
      (∀ cut, machine.heap.Has cut → cut ≠ .undefined → ∃ front back there later,
        ((Value.string text).invoke host "slice" [.number 0, cut]).runOn machine =
          (.ok (.string front), there) ∧
        ((Value.string text).invoke host "slice" [cut]).runOn there =
          (.ok (.string back), later) ∧
        front ++ back = text ∧ machine.heap.Grows later.heap) ∧
      ∀ arguments, (∀ argument ∈ arguments, machine.heap.Has argument) → ∃ part there,
        ((Value.string text).invoke host "slice" arguments).runOn machine =
          (.ok (.string part), there) ∧
        IsPart text.toList
          (clampedBound machine.heap text.toList.length 0 arguments[0]?)
          (clampedBound machine.heap text.toList.length text.toList.length arguments[1]?)
          part.toList ∧
        machine.heap.Grows there.heap := by
  have both : ∀ {cut}, machine.heap.Has cut →
      ∀ argument ∈ [.number 0, cut], machine.heap.Has argument :=
    fun has => List.forall_mem_cons.2 ⟨trivial, List.forall_mem_singleton.2 has⟩
  refine ⟨fun ref given short => ⟨fun cut has present => ?_, fun arguments has => ?_⟩,
    fun text short => ⟨fun cut has present => ?_, fun arguments has => ?_⟩⟩
  · obtain ⟨front, there, slices, isFront, hasFront, grows⟩ :=
      runOn_slice_list closed (.refl _) (both has) host given
    obtain ⟨back, later, slicesToo, isBack, -, growsToo⟩ :=
      runOn_slice_list closed grows (List.forall_mem_singleton.2 has) host given
    refine ⟨front, back, there, later, slices, slicesToo, ?_, grows.trans growsToo⟩
    rw [growsToo.items front hasFront, isFront, isBack, sliceOf_append short present]
  · obtain ⟨part, there, slices, isSlice, -, grows⟩ :=
      runOn_slice_list closed (.refl _) has host given
    refine ⟨part, there, slices, ?_, grows⟩
    rw [isSlice]
    exact isPart_sliceOf short
  · obtain ⟨there, slices, grows⟩ := runOn_slice_string closed (.refl _) (both has) host text
    obtain ⟨later, slicesToo, growsToo⟩ :=
      runOn_slice_string closed grows (List.forall_mem_singleton.2 has) host text
    refine ⟨_, _, there, later, slices, slicesToo, ?_, grows.trans growsToo⟩
    rw [← String.ofList_append, sliceOf_append short present, String.ofList_toList]
  · obtain ⟨there, slices, grows⟩ := runOn_slice_string closed (.refl _) has host text
    refine ⟨_, there, slices, ?_, grows⟩
    rw [String.toList_ofList]
    exact isPart_sliceOf short

/-- A machine with a list of three items. -/
def listed : Machine := .ofHeap (Heap.empty.newList [.bool true, .string "b", .null]).2

/-- A list that is cut in front of a fraction from its end, and positions in a string that cross. -/
theorem slice_cuts_exactly_fractional :
    (∃ front back there later,
      ((Value.list ⟨0⟩).invoke silentHost "slice" [.number 0, .string "-1.5"]).runOn listed =
        (.ok (.list front), there) ∧
      ((Value.list ⟨0⟩).invoke silentHost "slice" [.string "-1.5"]).runOn there =
        (.ok (.list back), later) ∧
      later.heap.items front ++ later.heap.items back = [.bool true, .string "b", .null] ∧
      listed.heap.Grows later.heap) ∧
    ∃ part there,
      ((Value.string "abc").invoke silentHost "slice" [.string "-1.5", .list ⟨0⟩]).runOn listed =
        (.ok (.string part), there) ∧
      IsPart "abc".toList 2 0 part.toList ∧ listed.heap.Grows there.heap := by
  have closed : listed.heap.Closed := Heap.closed_empty.newList (by simp [Heap.Has])
  have given : listed.heap.Has (.list ⟨0⟩) := Nat.zero_lt_one
  have fraction : listed.heap.Has (.string "-1.5") := trivial
  obtain ⟨ofLists, ofStrings⟩ := slice_cuts_exactly silentHost closed
  constructor
  · exact (ofLists ⟨0⟩ given (by decide)).1 (.string "-1.5") fraction (by simp)
  · obtain ⟨part, there, slices, isPart, grows⟩ := (ofStrings "abc" (by decide)).2
      [.string "-1.5", .list ⟨0⟩]
      (List.forall_mem_cons.2 ⟨fraction, List.forall_mem_singleton.2 given⟩)
    have start : clampedBound listed.heap 3 0 (some (.string "-1.5")) = 2 := by decide +kernel
    have stop : clampedBound listed.heap 3 3 (some (.list ⟨0⟩)) = 0 := by decide +kernel
    refine ⟨part, there, slices, ?_, grows⟩
    rw [← start, ← stop]
    exact isPart

end Parlance
