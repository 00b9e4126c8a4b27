import Mathlib
import Parlance.Proofs.Evaluation.Indexing
import Parlance.Proofs.Evaluation.Slicing
import Parlance.Proofs.Text.Occurrence

/-!
# Positions in strings

Searching, slicing and indexing a string mean the same positions, those of its characters. A string is
found at the first position from which on a slice of its length is the string, and an item of a string
is the slice up to the next position.
-/

namespace Parlance.Value

open Binary

variable {machine : Machine} {text needle : String} {start stop : Float} {place length : Nat}

/-! ### Comparisons -/

/-- Whether the slice of the text from the position on that is as long as the other string is this
string. -/
def sliceIs (host : Host) (text needle : String) (position : Value) : Eval Value := do
  let length ← (string needle).getProperty "length"
  let stop := BinaryOperator.plus.apply (← Eval.heap) position length
  let part ← (string text).invoke host "slice" [position, stop]
  return BinaryOperator.identical.apply (← Eval.heap) part (string needle)

/-- Whether the item at the position is the slice from the position to the next one. -/
def itemIsSlice (host : Host) (text : String) (position : Value) : Eval Value := do
  let item ← (string text).getIndex position
  let stop := BinaryOperator.plus.apply (← Eval.heap) position (number 1)
  let part ← (string text).invoke host "slice" [position, stop]
  return BinaryOperator.identical.apply (← Eval.heap) item part

/-! ### Slices -/

/-- A whole number stands for itself as a position, up to the end. -/
theorem sliceBound_of_denotes {count : Nat} (short : length < 2 * unit) (denotes : Denotes start count)
    (heap : Heap) (fallback : Nat) :
    sliceBound heap length fallback (some (number start)) = min count length := by
  rw [sliceBound_eq_clampedBound short]
  change clampedPlace length start = _
  rw [← Int.cast_natCast] at denotes
  rw [clampedPlace_of_denotes denotes, clamp]
  omega

/-- A slice has the characters from one position up to the other. -/
theorem runOn_slice (host : Host) (short : text.toList.length < 2 * unit)
    (inside : place ≤ text.toList.length) (starts : Denotes start place)
    (stops : Denotes stop (place + length : Nat)) (machine : Machine) :
    ((string text).invoke host "slice" [number start, number stop]).runOn machine =
      (.ok (ofText ((text.toList.drop place).take length)),
        machine.withFunction "slice" (.stringMethod .slice)) := by
  have slices : ∀ heap, sliceOf heap text.toList [number start, number stop] =
      (text.toList.drop place).take length := by
    intro heap
    change (text.toList.take (sliceBound heap _ _ (some (number stop)))).drop
      (sliceBound heap _ _ (some (number start))) = _
    rw [sliceBound_of_denotes short starts, sliceBound_of_denotes short stops,
      Nat.min_eq_left inside, ← List.take_take, List.take_length, List.drop_take,
      Nat.add_sub_cancel_left]
  rw [runOn_invoke_string rfl]
  change (Except.ok (ofText (sliceOf _ text.toList _)), _) = _
  rw [slices]

/-- Sums of positions are exact. -/
theorem denotes_add {count : Nat} (starts : Denotes start place) (counts : Denotes stop count)
    (short : place + count < 2 * unit) : Denotes (start + stop) (place + count : Nat) := by
  rw [Nat.cast_add]
  refine starts.add counts ?_
  rw [← Nat.cast_add, ← Int.cast_natCast]
  exact isRepresentable_intCast short

/-- Strings are identical if their characters are the same. -/
theorem identical_strings (heap : Heap) (first second : String) :
    BinaryOperator.identical.apply heap (string first) (string second) =
      bool (decide (first.toList = second.toList)) := by
  rw [decide_eq_decide.2 String.toList_inj]
  rfl

/-- The slice is the other string exactly if this occurs there. -/
theorem runOn_sliceIs (host : Host) (short : text.toList.length + needle.toList.length < 2 * unit)
    (inside : place ≤ text.toList.length) (machine : Machine) :
    ((sliceIs host text needle (ofNat place)).runOn machine).1 =
      .ok (bool (decide (needle.toList <+: text.toList.drop place))) := by
  have starts : Denotes (Float.ofNat place) place := denotes_ofNat (by omega)
  have stops : Denotes (Float.ofNat place + Float.ofNat needle.toList.length)
      (place + needle.toList.length : Nat) :=
    denotes_add starts (denotes_ofNat (by omega)) (by omega)
  have length : ((string needle).getProperty "length").runOn machine =
      (.ok (ofNat needle.toList.length), machine) := rfl
  have slices : ((string text).invoke host "slice" [ofNat place,
      BinaryOperator.plus.apply machine.heap (ofNat place) (ofNat needle.toList.length)]).runOn
        machine = _ :=
    runOn_slice host (by omega) inside starts stops machine
  rw [sliceIs, Eval.runOn_bind, length]
  dsimp only
  rw [Eval.runOn_heap_bind, Eval.runOn_bind, slices]
  dsimp only
  rw [Eval.runOn_heap_bind, Eval.runOn_pure, ofText, identical_strings, String.toList_ofList,
    decide_eq_decide.2 (eq_comm.trans List.prefix_iff_eq_take.symm)]

/-- A name that is an index reads the character there. -/
theorem runOn_getProperty_char {name : String} {char : Char}
    (numbered : index? name.toList = some place) (found : text.toList[place]? = some char)
    (machine : Machine) :
    ((string text).getProperty name).runOn machine = (.ok (ofText [char]), machine) := by
  rw [getProperty, Eval.runOn_heap_bind]
  simp only [if_neg (ne_length_of_index? numbered), numbered, found]
  rfl

/-- An item is the slice from its position to the next one. -/
theorem runOn_itemIsSlice (host : Host) (short : text.toList.length < 2 ^ 32 - 1)
    (inside : place < text.toList.length) (denotes : Denotes start place) (machine : Machine) :
    ((itemIsSlice host text (number start)).runOn machine).1 = .ok (bool true) := by
  have size : unit = 2 ^ 52 := rfl
  have greatest : Nat.pow 2 32 = 2 ^ 32 := rfl
  have one : Denotes 1 (1 : Nat) := denotes_ofNat (by decide)
  have stops : Denotes (start + 1) (place + 1 : Nat) := denotes_add denotes one (by omega)
  have names : (number start).Names place := denotes
  have numbered := names.index?_render (by omega) machine.heap
  have reads := runOn_getProperty_char numbered (List.getElem?_eq_getElem inside) machine
  have slices : ((string text).invoke host "slice" [number start,
      BinaryOperator.plus.apply machine.heap (number start) (number 1)]).runOn machine = _ :=
    runOn_slice host (by omega) inside.le denotes stops machine
  rw [itemIsSlice, Eval.runOn_bind, runOn_getIndex, reads]
  dsimp only
  rw [Eval.runOn_heap_bind, Eval.runOn_bind, slices]
  dsimp only
  rw [Eval.runOn_heap_bind, Eval.runOn_pure, List.drop_eq_getElem_cons inside,
    List.take_succ_cons, List.take_zero, ofText, identical_strings, decide_eq_true rfl]

/-! ### Searches -/

/-- A search gives the position of the first occurrence, or minus one. -/
theorem runOn_indexOf (host : Host) (text needle : String) (machine : Machine) :
    ((string text).invoke host "indexOf" [string needle]).runOn machine =
      (.ok (positionValue (Text.position? needle.toList text.toList)),
        machine.withFunction "indexOf" (.stringMethod .indexOf)) := by
  rw [runOn_invoke_string rfl]
  rfl

/-- No position is minus one. -/
theorem ofNat_ne_minusOne (short : place < 2 * unit) : ofNat place ≠ number (-1) := by
  intro same
  have counts := denotes_ofNat short
  have one : Denotes 1 (1 : Nat) := denotes_ofNat (by decide)
  rw [number.inj same] at counts
  have negative := counts.value_eq.symm.trans one.neg.value_eq
  have least : (0 : ℚ) ≤ place := by positivity
  rw [negative] at least
  norm_num at least

/-- A search for a string gives minus one exactly if the string does not occur, and otherwise the least
position from which on the slice of its length is the string. The item at a position is the slice up to
the next position. -/
theorem positions_agree (host : Host) (machine : Machine) (text needle : String)
    (short : text.toList.length < 2 ^ 32 - 1) (shortToo : needle.toList.length < 2 ^ 32 - 1) :
    (∃ position there,
      ((string text).invoke host "indexOf" [string needle]).runOn machine = (.ok position, there) ∧
      (position = number (-1) ↔ ¬needle.toList <:+: text.toList) ∧
      (needle.toList <:+: text.toList → ∃ place, position = ofNat place ∧
        IsLeast {place | ((sliceIs host text needle (ofNat place)).runOn machine).1 =
          .ok (bool true)} place)) ∧
    ∀ place < text.toList.length, ∀ position, Denotes position place →
      ((itemIsSlice host text (number position)).runOn machine).1 = .ok (bool true) := by
  have size : unit = 2 ^ 52 := rfl
  refine ⟨?_, fun place inside position denotes =>
    runOn_itemIsSlice host short inside denotes machine⟩
  refine ⟨_, _, runOn_indexOf host text needle machine, ?_⟩
  cases found : Text.position? needle.toList text.toList with
  | none =>
      have missing := Text.position?_eq_none_iff.1 found
      exact ⟨iff_of_true rfl missing, fun occurs => absurd occurs missing⟩
  | some place =>
      have isFirst := Text.position?_eq_some_iff.1 found
      have occurs := Text.exists_isFirst_iff.1 ⟨place, isFirst⟩
      have inside := isFirst.inside
      refine ⟨iff_of_false (ofNat_ne_minusOne (by omega)) (not_not.2 occurs),
        fun _ => ⟨place, rfl, ?_, fun other slices => ?_⟩⟩
      · rw [Set.mem_ofPred_eq, runOn_sliceIs host (by omega) inside, decide_eq_true isFirst.occurs]
      · by_contra before
        rw [not_le] at before
        rw [Set.mem_ofPred_eq, runOn_sliceIs host (by omega) (by omega)] at slices
        exact isFirst.first other before (of_decide_eq_true (bool.inj (Except.ok.inj slices)))

/-- A string that occurs twice, behind characters of one byte and of two. -/
theorem positions_agree_mixed :
    (∃ place there,
      ((string "aé€😀é€😀").invoke silentHost "indexOf" [string "€😀"]).runOn listed =
        (.ok (ofNat place), there) ∧
      IsLeast {place | ((sliceIs silentHost "aé€😀é€😀" "€😀" (ofNat place)).runOn listed).1 =
        .ok (bool true)} place) ∧
    ((itemIsSlice silentHost "aé€😀é€😀" (ofNat 3)).runOn listed).1 = .ok (bool true) := by
  obtain ⟨⟨_, there, searches, -, found⟩, items⟩ :=
    positions_agree silentHost listed "aé€😀é€😀" "€😀" (by decide) (by decide)
  obtain ⟨place, rfl, least⟩ := found ⟨['a', 'é'], ['é', '€', '😀'], by decide⟩
  exact ⟨⟨place, there, searches, least⟩, items 3 (by decide) _ (denotes_ofNat (by decide))⟩

end Parlance.Value
