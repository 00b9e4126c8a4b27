import Mathlib
import Parlance.Text.Search

/-!
# Occurrences of texts in texts

A text occurs in another one where its bytes occur, and nowhere between the characters: the first byte
of a character is no byte inside of one. So the search among the bytes finds the first occurrence in
front of a character, and the characters in front of it can be counted.
-/

namespace Parlance.Text

variable {α : Type} {needle text : Text} {items : List α} {offset place : Nat}

/-- The first place from which on the needle is found in the items. -/
structure IsFirst (needle items : List α) (place : Nat) : Prop where
  inside : place ≤ items.length
  occurs : needle <+: items.drop place
  first : ∀ earlier < place, ¬needle <+: items.drop earlier

theorem IsFirst.eq {needle : List α} {other : Nat} (isFirst : IsFirst needle items place)
    (isFirstToo : IsFirst needle items other) : place = other := by
  rcases lt_trichotomy place other with before | same | behind
  · exact absurd isFirst.occurs (isFirstToo.first place before)
  · exact same
  · exact absurd isFirstToo.occurs (isFirst.first other behind)

/-- What occurs anywhere has a first place. -/
theorem exists_isFirst_iff {needle : List α} :
    (∃ place, IsFirst needle items place) ↔ needle <:+: items := by
  constructor
  · rintro ⟨place, isFirst⟩
    exact isFirst.occurs.isInfix.trans (List.drop_suffix place items).isInfix
  · rintro ⟨front, back, rfl⟩
    have occurs : ∃ place, needle <+: (front ++ needle ++ back).drop place :=
      ⟨front.length, by simp⟩
    classical
    refine ⟨Nat.find occurs, ?_, Nat.find_spec occurs, fun _ => Nat.find_min occurs⟩
    refine (Nat.find_min' occurs (m := front.length) (by simp)).trans ?_
    simp

/-! ### Bytes -/

section

variable {bytes : List UInt8} {sought : List UInt8}

theorem isFirst_cons {byte : UInt8} (notHere : ¬sought <+: byte :: bytes) :
    IsFirst sought (byte :: bytes) (offset + 1) ↔ IsFirst sought bytes offset := by
  constructor
  · rintro ⟨inside, occurs, first⟩
    exact ⟨Nat.le_of_succ_le_succ inside, occurs, fun earlier before =>
      first (earlier + 1) (Nat.succ_lt_succ before)⟩
  · rintro ⟨inside, occurs, first⟩
    refine ⟨Nat.succ_le_succ inside, occurs, fun earlier before => ?_⟩
    cases earlier with
    | zero => exact notHere
    | succ earlier => exact first earlier (Nat.lt_of_succ_lt_succ before)

theorem isFirst_zero (occurs : sought <+: bytes) : IsFirst sought bytes offset ↔ offset = 0 := by
  have here : IsFirst sought bytes 0 := ⟨Nat.zero_le _, occurs, fun _ => nofun⟩
  constructor
  · intro isFirst
    exact isFirst.eq here
  · rintro rfl
    exact here

/-- The search among bytes finds the first occurrence. -/
theorem offset?_eq_some_iff : offset? sought bytes = some offset ↔ IsFirst sought bytes offset := by
  induction bytes generalizing offset with
  | nil =>
      rw [offset?]
      split
      · rename_i nothing
        rw [List.isEmpty_iff.1 nothing, isFirst_zero List.nil_prefix, Option.some_inj, eq_comm]
      · rename_i something
        refine iff_of_false nofun fun isFirst => something ?_
        rw [List.isEmpty_iff]
        simpa using isFirst.occurs
  | cons byte rest ih =>
      rw [offset?]
      split
      · rename_i here
        rw [isFirst_zero (List.isPrefixOf_iff_prefix.1 here), Option.some_inj, eq_comm]
      · rename_i notHere
        rw [List.isPrefixOf_iff_prefix] at notHere
        cases offset with
        | zero => exact iff_of_false (by simp) fun isFirst => notHere isFirst.occurs
        | succ offset =>
            rw [isFirst_cons notHere, ← ih]
            simp

end

/-! ### Characters -/

@[simp]
theorem bytes_append (first second : Text) : (first ++ second).bytes = first.bytes ++ second.bytes :=
  List.flatMap_append

theorem bytes_cons (char : Char) (rest : Text) :
    bytes (char :: rest) = String.utf8EncodeChar char ++ bytes rest :=
  List.flatMap_cons

@[simp]
theorem length_bytes (text : Text) : text.bytes.length = text.byteLength := by
  induction text with
  | nil => rfl
  | cons char rest ih =>
      rw [bytes_cons, List.length_append, String.length_utf8EncodeChar, ih, byteLength_cons]

/-- The first character of a text can be told from its bytes. -/
theorem char_eq_of_bytes {char other : Char} {rest others : List UInt8}
    (same : String.utf8EncodeChar char ++ rest = String.utf8EncodeChar other ++ others) :
    char = other := by
  have decoded : ∀ (char : Char) (rest : List UInt8),
      (String.utf8EncodeChar char ++ rest).toByteArray.utf8DecodeChar? 0 = some char := by
    intro char rest
    rw [List.toByteArray_append]
    exact ByteArray.utf8DecodeChar?_utf8EncodeChar_append
  rw [← Option.some_inj, ← decoded char rest, same, decoded other others]

/-- A text leads another one exactly if its bytes do. -/
theorem bytes_prefix_iff : needle.bytes <+: text.bytes ↔ needle <+: text := by
  constructor
  · intro leads
    induction needle generalizing text with
    | nil => exact List.nil_prefix
    | cons char rest ih =>
        obtain ⟨back, same⟩ := leads
        cases text with
        | nil =>
            rw [bytes_cons, List.append_assoc] at same
            exact absurd (List.append_eq_nil_iff.1 same).1 String.utf8EncodeChar_ne_nil
        | cons other others =>
            rw [bytes_cons, bytes_cons, List.append_assoc] at same
            obtain rfl := char_eq_of_bytes same
            rw [List.cons_prefix_cons]
            exact ⟨rfl, ih ⟨back, List.append_cancel_left same⟩⟩
  · rintro ⟨back, rfl⟩
    rw [bytes_append]
    exact List.prefix_append _ _

/-- A byte that can begin a character is in front of one. -/
theorem exists_boundary {byte : UInt8} (found : text.bytes[offset]? = some byte)
    (begins : byte.IsUTF8FirstByte) :
    ∃ place < text.length, byteLength (text.take place) = offset := by
  induction text generalizing offset with
  | nil => cases found
  | cons char rest ih =>
      have size := String.length_utf8EncodeChar char
      rw [bytes_cons] at found
      by_cases within : offset < (String.utf8EncodeChar char).length
      · rw [List.getElem?_append_left within, List.getElem?_eq_getElem within,
          Option.some_inj] at found
        subst found
        rw [UInt8.isUTF8FirstByte_getElem_utf8EncodeChar] at begins
        exact ⟨0, Nat.succ_pos _, begins.symm⟩
      · rw [List.getElem?_append_right (Nat.le_of_not_lt within)] at found
        obtain ⟨place, before, same⟩ := ih found
        refine ⟨place + 1, Nat.succ_lt_succ before, ?_⟩
        rw [List.take_succ_cons, byteLength_cons, same]
        omega

/-- The bytes from a character on. -/
theorem drop_bytes (place : Nat) (text : Text) :
    text.bytes.drop (byteLength (text.take place)) = bytes (text.drop place) := by
  have parts := congrArg bytes (List.take_append_drop place text)
  rw [← parts, bytes_append, ← length_bytes, List.drop_left]

/-- As many bytes as the first characters have are these characters. -/
theorem takeBytes?_take (place : Nat) (text : Text) :
    takeBytes? text (byteLength (text.take place)) = some (text.take place) := by
  have parts := takeBytes?_append (text.take place) (text.drop place)
  rwa [List.take_append_drop] at parts

theorem byteLength_take_le {other : Nat} (ordered : place ≤ other) :
    byteLength (text.take place) ≤ byteLength (text.take other) := by
  obtain ⟨between, rfl⟩ := Nat.exists_eq_add_of_le ordered
  rw [List.take_add, byteLength_append]
  exact Nat.le_add_right _ _

theorem byteLength_take_lt {other : Nat} (before : place < other) (inside : other ≤ text.length) :
    byteLength (text.take place) < byteLength (text.take other) := by
  obtain ⟨between, rfl⟩ := Nat.exists_eq_add_of_le before.le
  rw [List.take_add, byteLength_append, Nat.lt_add_right_iff_pos, Nat.pos_iff_ne_zero, Ne,
    byteLength_eq_zero, List.take_eq_nil_iff, List.drop_eq_nil_iff]
  omega

/-- Where the bytes of a text occur that is not empty, a character begins. -/
theorem exists_place (something : needle ≠ []) (occurs : needle.bytes <+: text.bytes.drop offset) :
    ∃ place < text.length, byteLength (text.take place) = offset := by
  obtain ⟨char, rest, rfl⟩ := List.exists_cons_of_ne_nil something
  obtain ⟨back, same⟩ := occurs
  have nonempty : 0 < (String.utf8EncodeChar char).length :=
    List.length_pos_iff.2 String.utf8EncodeChar_ne_nil
  refine exists_boundary ?_ (UInt8.isUTF8FirstByte_getElem_zero_utf8EncodeChar (c := char))
  rw [← Nat.add_zero offset, ← List.getElem?_drop, ← same, bytes_cons, List.append_assoc,
    List.getElem?_append_left nonempty, List.getElem?_eq_getElem nonempty]

/-- The bytes of a text occur in front of a character exactly if the text occurs there. -/
theorem bytes_occurs_iff : needle.bytes <+: text.bytes.drop (byteLength (text.take place)) ↔
    needle <+: text.drop place := by
  rw [drop_bytes, bytes_prefix_iff]

/-- The first occurrence among the bytes is the first one among the characters. -/
theorem isFirst_bytes_iff (inside : place ≤ text.length) :
    IsFirst needle.bytes text.bytes (byteLength (text.take place)) ↔ IsFirst needle text place := by
  constructor
  · rintro ⟨-, occurs, first⟩
    refine ⟨inside, bytes_occurs_iff.1 occurs, fun earlier before occursToo => ?_⟩
    exact first _ (byteLength_take_lt before inside) (bytes_occurs_iff.2 occursToo)
  · rintro ⟨-, occurs, first⟩
    refine ⟨?_, bytes_occurs_iff.2 occurs, fun earlier before occursToo => ?_⟩
    · rw [length_bytes]
      exact (byteLength_take_le inside).trans_eq (by rw [List.take_length])
    · by_cases nothing : needle = []
      · subst nothing
        cases place with
        | zero => exact absurd before (Nat.not_lt_zero _)
        | succ place => exact first 0 (Nat.succ_pos _) List.nil_prefix
      · obtain ⟨other, -, rfl⟩ := exists_place nothing occursToo
        refine first other ?_ (bytes_occurs_iff.1 occursToo)
        exact not_le.1 fun behind => not_lt.2 (byteLength_take_le behind) before

/-- A first occurrence among the bytes is in front of a character, or at the end. -/
theorem IsFirst.exists_place (isFirst : IsFirst needle.bytes text.bytes offset) :
    ∃ place ≤ text.length, byteLength (text.take place) = offset := by
  by_cases nothing : needle = []
  · subst nothing
    exact ⟨0, Nat.zero_le _, ((isFirst_zero List.nil_prefix).1 isFirst).symm⟩
  · obtain ⟨place, inside, same⟩ := Text.exists_place nothing isFirst.occurs
    exact ⟨place, inside.le, same⟩

/-- The position is that of the first occurrence. -/
theorem position?_eq_some_iff : position? needle text = some place ↔ IsFirst needle text place := by
  rw [position?, Option.bind_eq_some_iff]
  constructor
  · rintro ⟨offset, found, counted⟩
    rw [offset?_eq_some_iff] at found
    obtain ⟨other, inside, rfl⟩ := found.exists_place
    rw [takeBytes?_take, Option.map_some, Option.some_inj, List.length_take_of_le inside] at counted
    subst counted
    exact (isFirst_bytes_iff inside).1 found
  · intro isFirst
    refine ⟨_, offset?_eq_some_iff.2 ((isFirst_bytes_iff isFirst.inside).2 isFirst), ?_⟩
    rw [takeBytes?_take, Option.map_some, List.length_take_of_le isFirst.inside]

/-- There is no position exactly if the text does not occur. -/
theorem position?_eq_none_iff : position? needle text = none ↔ ¬needle <:+: text := by
  rw [Option.eq_none_iff_forall_ne_some, ← exists_isFirst_iff, not_exists]
  exact forall_congr' fun place => position?_eq_some_iff.not

end Parlance.Text
