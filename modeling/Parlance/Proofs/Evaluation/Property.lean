import Parlance.Proofs.Evaluation.Ownership
import Parlance.Proofs.Value.Index
import Parlance.Proofs.Value.Slot

/-!
# Writing properties

A property that is written reads as what was written, and what else can be read stays as it was. A
write that is refused changes nothing. A map takes every name, a list takes an index that does not
make it grow too long, and nothing else takes a name.
-/

namespace Parlance.Value

variable {value key newValue : Value} {name : String} {machine : Machine}

/-- The value does not take the name: it is no map, and if it is a list, then the name is no index,
or it is one that would make the list grow too long. -/
def Refuses (heap : Heap) (name : String) : Value → Prop
  | map _ => False
  | list ref =>
      (∀ index ≤ Nat.pow 2 32 - 2, name ≠ Nat.repr index) ∨
        ∃ index, name = Nat.repr index ∧ (heap.items ref).length ≤ index ∧ Nat.pow 2 24 ≤ index
  | _ => True

/-- The latter machine is the former one after a property was written: the name reads as the new
value, and all other names read as before, except that the length of a list covers the index. No
other list or map has changed. -/
structure Written (value : Value) (name : String) (newValue : Value) (former latter : Machine) :
    Prop where
  readBack : (value.getProperty name).runOn latter = (.ok newValue, latter)
  others : ∀ other ≠ name, (other = "length" → ∀ ref, value ≠ list ref) →
    ((value.getProperty other).runOn latter).1 = ((value.getProperty other).runOn former).1
  length : ∀ ref, value = list ref → ∃ index, name = Nat.repr index ∧
    (value.getProperty "length").runOn latter =
      (.ok (ofNat (max (former.heap.items ref).length (index + 1))), latter)
  lists : ∀ ref, value ≠ list ref → latter.heap.items ref = former.heap.items ref
  maps : ∀ ref, value ≠ map ref → latter.heap.entries ref = former.heap.entries ref
  calls : latter.calls = former.calls

/-- How a write of a property ends: it fails exactly where the value refuses the name, and then it
has changed nothing; otherwise the property is written. -/
structure Writes (value : Value) (name : String) (newValue : Value) (machine : Machine)
    (outcome : Except EvalError Unit × Machine) : Prop where
  refused : (∃ fault, outcome.1 = .error fault) ↔ value.Refuses machine.heap name
  atomic : ∀ fault, outcome.1 = .error fault → outcome.2 = machine
  written : outcome.1 = .ok () → value.Written name newValue machine outcome.2

theorem writes_of_refuses (refused : value.Refuses machine.heap name) (fault : EvalError) :
    value.Writes name newValue machine (.error fault, machine) :=
  ⟨⟨fun _ => refused, fun _ => ⟨fault, rfl⟩⟩, fun _ _ => rfl, nofun⟩

theorem writes_of_written {latter : Machine} (accepted : ¬value.Refuses machine.heap name)
    (written : value.Written name newValue machine latter) :
    value.Writes name newValue machine (.ok (), latter) :=
  ⟨⟨nofun, fun refused => absurd refused accepted⟩, nofun, fun _ => written⟩

/-! ### Maps -/

theorem runOn_getProperty_map (ref : MapRef) (name : String) (machine : Machine) :
    ((map ref).getProperty name).runOn machine =
      (.ok ((machine.heap.get? ref name).getD undefined), machine) := rfl

theorem written_map {ref : MapRef} (given : ref.index < machine.heap.maps.size) (name : String)
    (newValue : Value) :
    (map ref).Written name newValue machine
      { machine with heap := machine.heap.insert ref name newValue } where
  readBack := by simp [runOn_getProperty_map, Heap.get?_insert given]
  others other different _ := by
    simp [runOn_getProperty_map, Heap.get?_insert given, different]
  length ref isList := by cases isList
  lists _ _ := rfl
  maps other different := by
    refine Heap.entries_insert_of_ne ?_ name newValue
    rintro rfl
    exact different rfl
  calls := rfl

/-! ### Lists -/

theorem runOn_getProperty_length (ref : ListRef) (machine : Machine) :
    ((list ref).getProperty "length").runOn machine =
      (.ok (ofNat (machine.heap.items ref).length), machine) := rfl

theorem ne_length_of_index? {index : Nat} (numbered : index? name.toList = some index) :
    name ≠ "length" := by
  rintro rfl
  have noIndex : index? "length".toList = none := by decide
  rw [noIndex] at numbered
  cases numbered

theorem runOn_getProperty_index {index : Nat} (numbered : index? name.toList = some index)
    (ref : ListRef) (machine : Machine) :
    ((list ref).getProperty name).runOn machine =
      (.ok ((machine.heap.items ref)[index]?.getD undefined), machine) := by
  rw [getProperty, Eval.runOn_heap_bind]
  simp only [if_neg (ne_length_of_index? numbered), numbered]
  rfl

/-- A name that is neither the length nor an index is that of a method, or of nothing. What it reads
as does not depend on the items. -/
theorem runOn_getProperty_method (notLength : name ≠ "length")
    (noIndex : index? name.toList = none) (ref : ListRef) (machine : Machine) :
    ((list ref).getProperty name).runOn machine =
      (newMethod name ((ListMethod.ofName? name).map .listMethod)).runOn machine := by
  rw [getProperty, Eval.runOn_heap_bind]
  simp only [if_neg notLength, noIndex]

/-- A method that is read has the next identity. -/
theorem newMethod_eq {former latter : Machine}
    (functions : latter.heap.functions = former.heap.functions) (name : String)
    (code : Option FunctionCode) :
    ((newMethod name code).runOn latter).1 = ((newMethod name code).runOn former).1 := by
  cases code with
  | none => rfl
  | some code =>
      change Except.ok (function ⟨latter.heap.functions, name, code⟩) =
        Except.ok (function ⟨former.heap.functions, name, code⟩)
      rw [functions]

section

variable {ref : ListRef} {index : Nat}

/-- A list refuses a name exactly if the name is no index under which it takes a value. -/
theorem refuses_list_iff (ref : ListRef) (newValue : Value) :
    (list ref).Refuses machine.heap name ↔
      ∀ index, index? name.toList = some index →
        machine.heap.putItem? ref index newValue = none := by
  constructor
  · intro refused index numbered
    obtain ⟨written, bounded⟩ := index?_toList_eq_some_iff.1 numbered
    rcases refused with noIndex | ⟨other, rfl, outside, tooLong⟩
    · exact absurd written (noIndex index bounded)
    · cases eq_of_repr_eq written
      exact Heap.putItem?_eq_none_iff.2 ⟨outside, tooLong⟩
  · intro refused
    cases numbered : index? name.toList with
    | none =>
        refine .inl fun index bounded written => ?_
        rw [index?_toList_eq_some_iff.2 ⟨written, bounded⟩] at numbered
        cases numbered
    | some index =>
        obtain ⟨outside, tooLong⟩ := Heap.putItem?_eq_none_iff.1 (refused index numbered)
        exact .inr ⟨index, (index?_toList_eq_some_iff.1 numbered).1, outside, tooLong⟩

theorem written_list {latter : Heap} (given : ref.index < machine.heap.lists.size)
    (numbered : index? name.toList = some index)
    (put : machine.heap.putItem? ref index newValue = some latter) :
    (list ref).Written name newValue machine { machine with heap := latter } := by
  have puts := Heap.puts_of_putItem? given put
  constructor
  case readBack =>
    rw [runOn_getProperty_index numbered, Heap.getElem?_of_putItem? given put]
    rfl
  case others =>
    intro other different notLength
    replace notLength : other ≠ "length" := fun isLength => notLength isLength ref rfl
    cases otherNumbered : index? other.toList with
    | none =>
        rw [runOn_getProperty_method notLength otherNumbered,
          runOn_getProperty_method notLength otherNumbered]
        refine newMethod_eq ?_ _ _
        cases Heap.eq_of_putItem? put
        rfl
    | some position =>
        rw [runOn_getProperty_index otherNumbered, runOn_getProperty_index otherNumbered]
        refine congrArg Except.ok ?_
        -- An item that is filled in reads as it did when it was missing.
        by_cases before : position < index
        · have filled := puts.before (.item ref position) ⟨rfl, before⟩
          rw [Heap.valueAt?] at filled
          rw [filled]
          rfl
        · refine congrArg (Option.getD · undefined) (puts.elsewhere (.item ref position) ?_ ?_)
          · intro same
            cases same
            have written := (index?_toList_eq_some_iff.1 numbered).1
            exact different ((index?_toList_eq_some_iff.1 otherNumbered).1.trans written.symm)
          · exact fun both => before both.2
  case length =>
    rintro _ ⟨⟩
    refine ⟨index, (index?_toList_eq_some_iff.1 numbered).1, ?_⟩
    rw [runOn_getProperty_length, Heap.length_of_putItem? given put]
  case lists =>
    intro other different
    cases Heap.eq_of_putItem? put
    rw [Heap.items_setItems, if_neg]
    rintro ⟨rfl, _⟩
    exact different rfl
  case maps =>
    intro other _
    cases Heap.eq_of_putItem? put
    rfl
  case calls => rfl

end

/-! ### All values -/

/-- A write of a property succeeds or changes nothing. -/
theorem setProperty_writes (given : machine.heap.Has value) (name : String) (newValue : Value) :
    value.Writes name newValue machine ((value.setProperty name newValue).runOn machine) := by
  rw [setProperty, Eval.runOn_heap_bind]
  cases value with
  | map ref => exact writes_of_written (fun refused => refused) (written_map given name newValue)
  | list ref =>
      have refuses : (list ref).Refuses machine.heap name ↔ _ := refuses_list_iff ref newValue
      dsimp only
      cases numbered : index? name.toList with
      | none =>
          refine writes_of_refuses (refuses.2 fun index found => ?_) _
          rw [numbered] at found
          cases found
      | some index =>
          dsimp only
          cases put : machine.heap.putItem? ref index newValue with
          | none =>
              refine writes_of_refuses (refuses.2 fun other found => ?_) _
              rw [numbered] at found
              cases found
              exact put
          | some latter =>
              refine writes_of_written (fun refused => ?_) (written_list given numbered put)
              rw [refuses.1 refused index numbered] at put
              cases put
  | _ =>
      refine writes_of_refuses ?_ _
      trivial

/-- A property is written under a name, or under the text that a key has before the write. The write
fails where the value refuses the name, and leaves everything as it was. Otherwise the name reads as
what was written, all other names read as before, except for the length of a list, and no other list
or map has changed. -/
theorem properties_are_written (given : machine.heap.Has value) (newValue : Value) :
    (∀ name, value.Writes name newValue machine
      ((value.setProperty name newValue).runOn machine)) ∧
    ∀ key, value.Writes (key.render machine.heap) newValue machine
      ((value.setIndex key newValue).runOn machine) :=
  ⟨fun name => setProperty_writes given name newValue,
    fun key => setProperty_writes given (key.render machine.heap) newValue⟩

/-- A heap with a list of two items. -/
def twoItems : Machine := .ofHeap (Heap.empty.newList [bool false, bool true]).2

theorem properties_are_written_twoItems :
    (∃ there, ((list ⟨0⟩).setProperty "4" null).runOn twoItems = (.ok (), there) ∧
      (list ⟨0⟩).Written "4" null twoItems there) ∧
    (list ⟨0⟩).Refuses twoItems.heap "16777216" ∧
    (list ⟨0⟩).Refuses twoItems.heap "04" := by
  have given : twoItems.heap.Has (list ⟨0⟩) := Nat.zero_lt_one
  have writes := (properties_are_written given null).1
  refine ⟨⟨_, rfl, (writes "4").written rfl⟩, ?_, ?_⟩
  · exact (writes "16777216").refused.1 ⟨.type (.indexTooLarge 16777216), rfl⟩
  · exact (writes "04").refused.1 ⟨.type (.writeToList "04"), rfl⟩

end Parlance.Value
