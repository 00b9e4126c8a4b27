import Mathlib
import Parlance.Proofs.Evaluation.Property
import Parlance.Proofs.Number.Whole

/-!
# Items by number and by text

Every index has one text, the shortest one that writes it in decimal digits, and this is also how a
number is written that is the index. So an item of a list is found under the number and under the text
alike, and under nothing else.
-/

namespace Parlance

open Numeral

/-! ### Shortest writings -/

section

variable {text : Text} {number : Nat}

/-- The text writes the number in decimal digits, and none with fewer digits does. -/
structure IsShortestWriting (text : Text) (number : Nat) : Prop where
  isDigits : IsDigits text
  value : digitsValue text = number
  shortest : ∀ other, IsDigits other → digitsValue other = number → text.length ≤ other.length

theorem digitsValue_lt (areDigits : ∀ digit ∈ text, digit.isDigit = true) :
    digitsValue text < 10 ^ text.length := by
  have bounded : ∀ start, text.foldl (fun total digit => 10 * total + (digit.toNat - '0'.toNat))
      start < (start + 1) * 10 ^ text.length := by
    induction text with
    | nil => simp
    | cons digit digits ih =>
        intro start
        have small := (digitChar_of_isDigit (areDigits digit (by simp))).1
        rw [List.foldl_cons, List.length_cons, pow_succ', ← mul_assoc]
        refine (ih (fun other member => areDigits other (by simp [member])) _).trans_le ?_
        gcongr
        omega
  simpa [digitsValue] using bounded 0

/-- A number has one shortest writing, its numeral. -/
theorem isShortestWriting_iff : IsShortestWriting text number ↔ text = Nat.toDigits 10 number := by
  constructor
  · rintro ⟨⟨nonempty, areDigits⟩, rfl, shortest⟩
    cases text with
    | nil => exact absurd rfl nonempty
    | cons digit digits =>
        by_cases zero : digit = '0'
        · subst zero
          cases digits with
          | nil => rfl
          | cons other others =>
              -- The text without the zero in front is shorter.
              have longer := shortest (other :: others)
                ⟨by simp, fun char member => areDigits char (by simp [member])⟩
                (Decimal.digitsValue_zeros_append 1 _).symm
              simp at longer
        · exact (toDigits_digitsValue areDigits zero).symm
  · rintro rfl
    refine ⟨Decimal.isDigits_toDigits number, Nat.ofDigitChars_ten_toDigits, ?_⟩
    rintro other ⟨nonempty, areDigits⟩ rfl
    rw [Nat.length_toDigits_le_iff (by decide) (List.length_pos_iff.2 nonempty)]
    exact digitsValue_lt areDigits

theorem index?_eq_some_iff_isShortestWriting {index : Nat} :
    index? text = some index ↔ IsShortestWriting text index ∧ index ≤ Nat.pow 2 32 - 2 := by
  rw [isShortestWriting_iff]
  exact index?_eq_some_iff

end

namespace Value

open Binary

variable {ref : ListRef} {index : Nat} {key other newValue : Value} {machine : Machine}

/-! ### Keys -/

/-- The key is the index, as a number, or is a string that is its shortest writing. -/
def Names (index : Nat) : Value → Prop
  | number count => Denotes count index
  | string text => IsShortestWriting text.toList index
  | _ => False

/-- Numbers and strings are the keys that are told apart here. -/
def IsPlainKey : Value → Prop
  | number _ | string _ => True
  | _ => False

theorem render_number (number : Float) (heap : Heap) :
    (Value.number number).render heap = write number :=
  String.ofList_toList

theorem render_string (text : String) (heap : Heap) : (string text).render heap = text :=
  String.ofList_toList

/-- The text of such a key does not depend on the heap. -/
theorem IsPlainKey.render_eq (plain : key.IsPlainKey) (former latter : Heap) :
    key.render former = key.render latter := by
  match key, plain with
  | number count, _ => rw [render_number, render_number]
  | string text, _ => rw [render_string, render_string]

/-- A key is turned into the index exactly if it names it. -/
theorem index?_render_iff (plain : key.IsPlainKey) (heap : Heap) :
    index? (key.render heap).toList = some index ↔
      key.Names index ∧ index ≤ Nat.pow 2 32 - 2 := by
  match key, plain with
  | number count, _ =>
      rw [render_number, index?_toList_eq_some_iff]
      refine and_congr_left fun bounded => write_eq_repr_iff ?_
      have short : greatestIndex < 2 * unit := by decide
      exact bounded.trans_lt short
  | string text, _ =>
      rw [render_string]
      exact index?_eq_some_iff_isShortestWriting

theorem Names.index?_render (names : key.Names index) (bounded : index ≤ Nat.pow 2 32 - 2)
    (heap : Heap) : index? (key.render heap).toList = some index := by
  refine (index?_render_iff ?_ heap).2 ⟨names, bounded⟩
  match key, names with
  | number _, _ | string _, _ => trivial

/-! ### Reading and writing -/

/-- The key reads and writes the item of the list at the index: it reads what is in this slot, and
what it writes is put there and nowhere else, unless the list would grow too long. -/
structure Reaches (ref : ListRef) (index : Nat) (key : Value) (machine : Machine) : Prop where
  read : ((list ref).getIndex key).runOn machine =
    (.ok ((machine.heap.valueAt? (.item ref index)).getD undefined), machine)
  write : ∀ newValue, index < max (machine.heap.items ref).length Heap.listLimit →
    ∃ latter, machine.heap.Puts (.item ref index) newValue latter ∧
      ((list ref).setIndex key newValue).runOn machine = (.ok (), { machine with heap := latter })
  refuse : ∀ newValue, max (machine.heap.items ref).length Heap.listLimit ≤ index →
    ((list ref).setIndex key newValue).runOn machine =
      (.error (.type (.indexTooLarge index)), machine)

/-- The key reads and writes no item of the list: what it reads is the same for all items that there
can be, and what is written is refused. -/
structure ReachesNone (ref : ListRef) (key : Value) (machine : Machine) : Prop where
  read : ∀ other : Machine, other.heap.functions = machine.heap.functions →
    (other.heap.items ref).length = (machine.heap.items ref).length →
    (((list ref).getIndex key).runOn other).1 = (((list ref).getIndex key).runOn machine).1
  unchanged : (((list ref).getIndex key).runOn machine).2.heap.lists = machine.heap.lists
  write : ∀ newValue, ((list ref).setIndex key newValue).runOn machine =
    (.error (.type (.writeToList (key.render machine.heap))), machine)

theorem runOn_getIndex (value key : Value) (machine : Machine) :
    (value.getIndex key).runOn machine =
      (value.getProperty (key.render machine.heap)).runOn machine := by
  rw [getIndex, Eval.runOn_heap_bind]

/-- A write under a key with the text of an index puts the item into the list there. -/
theorem runOn_setIndex (numbered : index? (key.render machine.heap).toList = some index)
    (newValue : Value) :
    ((list ref).setIndex key newValue).runOn machine =
      match machine.heap.putItem? ref index newValue with
      | some latter => (.ok (), { machine with heap := latter })
      | none => (.error (.type (.indexTooLarge index)), machine) := by
  rw [setIndex, Eval.runOn_heap_bind, setProperty, Eval.runOn_heap_bind]
  simp only [numbered]
  cases machine.heap.putItem? ref index newValue with
  | none | some _ => rfl

/-- A key with the text of an index reaches the item there. -/
theorem reaches_of_index? (given : machine.heap.Has (list ref))
    (numbered : index? (key.render machine.heap).toList = some index) :
    Reaches ref index key machine where
  read := by
    rw [runOn_getIndex, runOn_getProperty_index numbered]
    rfl
  write newValue accepted := by
    rw [runOn_setIndex numbered]
    cases put : machine.heap.putItem? ref index newValue with
    | some latter => exact ⟨latter, Heap.puts_of_putItem? given put, rfl⟩
    | none => exact absurd accepted (not_lt.2 (max_le_iff.2 (Heap.putItem?_eq_none_iff.1 put)))
  refuse newValue refused := by
    rw [runOn_setIndex numbered, Heap.putItem?_eq_none_iff.2 (max_le_iff.1 refused)]

/-- A key whose text is no index reaches nothing. -/
theorem reachesNone_of_index? (plain : key.IsPlainKey)
    (noIndex : index? (key.render machine.heap).toList = none) :
    ReachesNone ref key machine := by
  constructor
  case read =>
    intro other functions length
    rw [runOn_getIndex, runOn_getIndex, plain.render_eq other.heap machine.heap]
    by_cases isLength : key.render machine.heap = "length"
    · rw [isLength, runOn_getProperty_length, runOn_getProperty_length, length]
    · rw [runOn_getProperty_method isLength noIndex, runOn_getProperty_method isLength noIndex]
      exact newMethod_eq functions _ _
  case unchanged =>
    rw [runOn_getIndex]
    by_cases isLength : key.render machine.heap = "length"
    · rw [isLength, runOn_getProperty_length]
    · rw [runOn_getProperty_method isLength noIndex]
      cases (ListMethod.ofName? (key.render machine.heap)).map FunctionCode.listMethod with
      | none | some _ => rfl
  case write =>
    intro newValue
    rw [setIndex, Eval.runOn_heap_bind, setProperty, Eval.runOn_heap_bind]
    simp only [noIndex]
    rfl

/-- A text is an index exactly if it is the shortest decimal writing of a number that is not beyond the
greatest index, so different texts are different indices. The number and its shortest writing read and
write one item of a list, and no other number or string reads or writes any. -/
theorem indices_are_canonical :
    (∀ name index, index? name = some index ↔
      IsShortestWriting name index ∧ index ≤ Nat.pow 2 32 - 2) ∧
    (∀ first second index, index? first = some index → index? second = some index →
      first = second) ∧
    ∀ machine ref, machine.heap.Has (list ref) →
      (∀ index ≤ Nat.pow 2 32 - 2, ∀ key : Value, key.Names index →
        Reaches ref index key machine ∧ ∀ other : Value, other.Names index → ∀ newValue,
          ((list ref).setIndex other newValue).runOn machine =
            ((list ref).setIndex key newValue).runOn machine) ∧
      ∀ key : Value, key.IsPlainKey → (∀ index ≤ Nat.pow 2 32 - 2, ¬key.Names index) →
        ReachesNone ref key machine := by
  refine ⟨fun _ _ => index?_eq_some_iff_isShortestWriting, ?_, ?_⟩
  · intro first second index firstIs secondIs
    rw [(index?_eq_some_iff.1 firstIs).1, (index?_eq_some_iff.1 secondIs).1]
  · intro machine ref given
    constructor
    · intro index bounded key names
      have numbered := names.index?_render bounded machine.heap
      refine ⟨reaches_of_index? given numbered, fun other namesToo newValue => ?_⟩
      rw [runOn_setIndex numbered, runOn_setIndex (namesToo.index?_render bounded machine.heap)]
    · intro key plain nameless
      refine reachesNone_of_index? plain (Option.eq_none_iff_forall_ne_some.2 ?_)
      intro index numbered
      obtain ⟨names, bounded⟩ := (index?_render_iff plain _).1 numbered
      exact nameless index bounded names

theorem indices_are_canonical_twoItems :
    ((list ⟨0⟩).getIndex (number (-0))).runOn twoItems = (.ok (bool false), twoItems) ∧
    (∃ latter, twoItems.heap.Puts (.item ⟨0⟩ 1) null latter ∧
      ((list ⟨0⟩).setIndex (string "1") null).runOn twoItems = (.ok (), ⟨latter, []⟩)) ∧
    ((list ⟨0⟩).setIndex (string "01") null).runOn twoItems =
      (.error (.type (.writeToList "01")), twoItems) := by
  obtain ⟨reaches, reachesNone⟩ :=
    indices_are_canonical.2.2 twoItems ⟨0⟩ Nat.zero_lt_one
  have minusZero : (number (-0)).Names 0 := by
    rw [Names, Nat.cast_zero]
    exact denotes_zero .negative
  have one : (string "1").Names 1 := isShortestWriting_iff.2 rfl
  refine ⟨(reaches 0 (by decide) _ minusZero).1.read,
    (reaches 1 (by decide) _ one).1.write null (by decide), ?_⟩
  refine (reachesNone (string "01") trivial fun index _ writes => ?_).write null
  have zeros := (isShortestWriting_iff.1 writes).symm
  rw [eq_zero_of_toDigits zeros] at zeros
  exact absurd zeros (by decide)

end Value

end Parlance
