/-!
# Texts and byte offsets

A text is a list of characters. Offsets into texts count the bytes of the UTF-8 encoding, so an
offset can fall inside a character; a text is cut only between characters.
-/

namespace Parlance

/-- A text as the list of its characters. -/
abbrev Text := List Char

namespace Text

/-- The bytes of the text in UTF-8. -/
def bytes (text : Text) : List UInt8 := text.flatMap String.utf8EncodeChar

/-- The number of bytes that the text takes in UTF-8. -/
def byteLength : Text → Nat
  | [] => 0
  | char :: rest => char.utf8Size + byteLength rest

/-- The text after its first `count` bytes, unless these end inside a character or are too many. -/
def dropBytes? : Text → Nat → Option Text
  | text, 0 => some text
  | [], _ + 1 => none
  | char :: rest, count + 1 =>
      if char.utf8Size ≤ count + 1 then dropBytes? rest (count + 1 - char.utf8Size) else none

/-- The first `count` bytes of the text, unless they end inside a character or are too many. -/
def takeBytes? : Text → Nat → Option Text
  | _, 0 => some []
  | [], _ + 1 => none
  | char :: rest, count + 1 =>
      if char.utf8Size ≤ count + 1 then
        (takeBytes? rest (count + 1 - char.utf8Size)).map (char :: ·)
      else none

/-- The last `count` characters of the text, or all of them if there are fewer. -/
def takeLast (text : Text) (count : Nat) : Text :=
  text.drop (text.length - count)

@[simp] theorem byteLength_nil : byteLength [] = 0 := rfl

@[simp] theorem byteLength_cons (char : Char) (rest : Text) :
    byteLength (char :: rest) = char.utf8Size + byteLength rest := rfl

@[simp] theorem byteLength_append (first second : Text) :
    byteLength (first ++ second) = byteLength first + byteLength second := by
  induction first with
  | nil => simp
  | cons char rest ih =>
      simp only [List.cons_append, byteLength_cons, ih]
      omega

@[simp] theorem byteLength_eq_zero {text : Text} : byteLength text = 0 ↔ text = [] := by
  cases text with
  | nil => simp
  | cons char rest =>
      have positive := char.utf8Size_pos
      simp only [byteLength_cons, reduceCtorEq, iff_false]
      omega

theorem length_le_byteLength (text : Text) : text.length ≤ text.byteLength := by
  induction text with
  | nil => simp
  | cons char rest ih =>
      have positive := char.utf8Size_pos
      simp only [List.length_cons, byteLength_cons]
      omega

@[simp] theorem dropBytes?_zero (text : Text) : dropBytes? text 0 = some text := by
  cases text <;> rfl

@[simp] theorem takeBytes?_zero (text : Text) : takeBytes? text 0 = some [] := by
  cases text <;> rfl

/-- Dropping the bytes of a leading part leaves the part after it. -/
@[simp] theorem dropBytes?_append (first second : Text) :
    dropBytes? (first ++ second) (byteLength first) = some second := by
  induction first with
  | nil => simp
  | cons char rest ih =>
      obtain ⟨size, sized⟩ : ∃ size, char.utf8Size = size + 1 :=
        Nat.exists_eq_succ_of_ne_zero (Nat.pos_iff_ne_zero.1 char.utf8Size_pos)
      have total : byteLength (char :: rest) = (size + byteLength rest) + 1 := by
        rw [byteLength_cons, sized]
        omega
      rw [total, List.cons_append, dropBytes?, if_pos (by omega)]
      rw [show size + byteLength rest + 1 - char.utf8Size = byteLength rest by omega]
      exact ih

/-- Taking the bytes of a leading part gives that part. -/
@[simp] theorem takeBytes?_append (first second : Text) :
    takeBytes? (first ++ second) (byteLength first) = some first := by
  induction first with
  | nil => simp
  | cons char rest ih =>
      obtain ⟨size, sized⟩ : ∃ size, char.utf8Size = size + 1 :=
        Nat.exists_eq_succ_of_ne_zero (Nat.pos_iff_ne_zero.1 char.utf8Size_pos)
      have total : byteLength (char :: rest) = (size + byteLength rest) + 1 := by
        rw [byteLength_cons, sized]
        omega
      rw [total, List.cons_append, takeBytes?, if_pos (by omega)]
      rw [show size + byteLength rest + 1 - char.utf8Size = byteLength rest by omega, ih]
      rfl

end Text

end Parlance
