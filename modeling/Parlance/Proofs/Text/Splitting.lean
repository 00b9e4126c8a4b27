import Mathlib.Data.List.Infix
import Parlance.Text.Search

/-!
# Splitting and joining texts

A text that is split at a separator is joined to the same text again, and no part contains the
separator. Occurrences are taken from left to right and do not overlap, so a part ends where the
next occurrence in the whole text starts, and no other occurrence starts inside it.
-/

namespace Parlance.Text

variable {separator text part : Text} {parts : List Text}

/-! ### Joining -/

@[simp]
theorem join_singleton (separator part : Text) : join separator [part] = part := by
  simp [join]

theorem join_cons (separator part : Text) (nonempty : parts ≠ []) :
    join separator (part :: parts) = part ++ (separator ++ join separator parts) := by
  obtain ⟨other, parts, rfl⟩ := List.exists_cons_of_ne_nil nonempty
  simp [join]

/-- A character in front of the first part is in front of the whole. -/
theorem join_cons_cons (separator part : Text) (char : Char) (parts : List Text) :
    join separator ((char :: part) :: parts) = char :: join separator (part :: parts) := by
  by_cases last : parts = []
  · rw [last, join_singleton, join_singleton]
  · rw [join_cons _ _ last, join_cons _ _ last, List.cons_append]

/-- Single characters with nothing between them are joined to the text. -/
theorem join_chars (text : Text) : join [] (text.map fun char => [char]) = text := by
  induction text with
  | nil => rfl
  | cons char text ih =>
      by_cases last : text = []
      · rw [last]
        rfl
      · rw [List.map_cons, join_cons _ _ (by simpa using last), ih]
        rfl

/-! ### Splitting -/

theorem partsAfter_ne_nil (separator : Text) (skip : Nat) (text : Text) :
    partsAfter separator skip text ≠ [] := by
  fun_induction partsAfter separator skip text with
  | case2 _ _ _ ih => exact ih
  | _ => exact List.cons_ne_nil _ _

/-- The parts after some characters are joined to the text without these. -/
theorem join_partsAfter (some : separator ≠ []) (skip : Nat) (text : Text) :
    join separator (partsAfter separator skip text) = text.drop skip := by
  fun_induction partsAfter separator skip text with
  | case1 skip => rw [join_singleton, List.drop_nil]
  | case2 skip char rest ih => rw [ih, List.drop_succ_cons]
  | case3 char rest occurs ih =>
      obtain ⟨first, others, rfl⟩ := List.exists_cons_of_ne_nil some
      obtain ⟨behind, same⟩ := List.isPrefixOf_iff_prefix.1 occurs
      cases same
      rw [join_cons _ _ (partsAfter_ne_nil _ _ _), ih]
      simp
  | case4 char rest _ none => exact absurd none (partsAfter_ne_nil _ _ _)
  | case5 char rest _ part parts found ih =>
      rw [found] at ih
      rw [join_cons_cons, ih]
      rfl

/-- The part leads the text up to the next occurrence of the separator. -/
structure Leads (separator part text : Text) : Prop where
  isPrefix : part <+: text
  free : ∀ index < part.length, ¬separator <+: text.drop index

theorem Leads.nil : Leads separator [] text :=
  ⟨List.nil_prefix, fun _ inside => absurd inside (Nat.not_lt_zero _)⟩

theorem Leads.cons {char : Char} (free : ¬separator <+: char :: text)
    (leads : Leads separator part text) : Leads separator (char :: part) (char :: text) where
  isPrefix := List.cons_prefix_cons.2 ⟨rfl, leads.isPrefix⟩
  free index inside := by
    cases index with
    | zero => exact free
    | succ index => exact leads.free index (Nat.lt_of_succ_lt_succ inside)

/-- An occurrence inside the part would start inside it. -/
theorem Leads.not_isInfix (some : separator ≠ []) (leads : Leads separator part text) :
    ¬separator <:+: part := by
  rintro ⟨before, behind, rfl⟩
  have long := List.length_pos_iff.2 some
  obtain ⟨rest, rfl⟩ := leads.isPrefix
  apply leads.free before.length
  · simp only [List.length_append]
    omega
  · simp

theorem exists_partsAfter_eq (some : separator ≠ []) (skip : Nat) (text : Text) :
    ∃ first others, partsAfter separator skip text = first :: others ∧
      Leads separator first (text.drop skip) ∧ ∀ part ∈ others, ¬separator <:+: part := by
  fun_induction partsAfter separator skip text with
  | case1 skip => exact ⟨[], [], rfl, .nil, by simp⟩
  | case2 skip char rest ih => exact ih
  | case3 char rest occurs ih =>
      obtain ⟨first, others, same, leads, free⟩ := ih
      rw [same]
      exact ⟨[], _, rfl, .nil, List.forall_mem_cons.2 ⟨leads.not_isInfix some, free⟩⟩
  | case4 char rest _ none => exact absurd none (partsAfter_ne_nil _ _ _)
  | case5 char rest occursNot part parts found ih =>
      obtain ⟨first, others, same, leads, free⟩ := ih
      rw [found] at same
      cases same
      rw [List.isPrefixOf_iff_prefix] at occursNot
      exact ⟨_, _, rfl, leads.cons occursNot, free⟩

/-- Joining undoes splitting. -/
theorem join_split (some : separator ≠ []) (text : Text) :
    join separator (split separator text) = text :=
  join_partsAfter some 0 text

/-- No part of a split text contains the separator. -/
theorem not_isInfix_of_mem_split (some : separator ≠ []) (member : part ∈ split separator text) :
    ¬separator <:+: part := by
  obtain ⟨first, others, same, leads, free⟩ := exists_partsAfter_eq some 0 text
  rw [split, same] at member
  rcases List.mem_cons.1 member with rfl | inOthers
  · exact leads.not_isInfix some
  · exact free part inOthers

end Parlance.Text
