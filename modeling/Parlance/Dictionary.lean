/-!
# Dictionaries

A dictionary gives values to names. Its entries are kept in the order of their names, character by
character, so two dictionaries with the same bindings are the same. Looking up a name after an
insertion or a removal is described by `get?_insert` and `get?_erase`.
-/

namespace Parlance

/-- Entries in strictly increasing order of their names. -/
abbrev Ascending {α : Type} (entries : List (String × α)) : Prop :=
  entries.Pairwise fun first second => first.1 < second.1

namespace Ascending

variable {α : Type}

/-- Puts an entry at its place, instead of one with the same name if there is one. -/
def place (name : String) (value : α) : List (String × α) → List (String × α)
  | [] => [(name, value)]
  | entry :: rest =>
      if name < entry.1 then (name, value) :: entry :: rest
      else if name = entry.1 then (name, value) :: rest
      else entry :: place name value rest

theorem mem_place {name : String} {value : α} {entry : String × α} {entries : List (String × α)}
    (member : entry ∈ place name value entries) : entry = (name, value) ∨ entry ∈ entries := by
  induction entries with
  | nil => simpa [place] using member
  | cons first rest ih =>
      simp only [place] at member
      split at member
      · simpa using member
      · split at member
        · simp only [List.mem_cons] at member ⊢
          exact member.imp_right Or.inr
        · simp only [List.mem_cons] at member ⊢
          rcases member with rfl | member
          · exact Or.inr (Or.inl rfl)
          · exact (ih member).imp_right Or.inr

theorem lt_of_not_lt_of_ne {first second : String} (notBefore : ¬first < second)
    (distinct : first ≠ second) : second < first :=
  String.not_le.1 fun le => distinct (String.le_antisymm le (String.not_lt.1 notBefore))

/-- Placing an entry keeps the order. -/
theorem place_ascending {name : String} {value : α} {entries : List (String × α)}
    (ordered : Ascending entries) : Ascending (place name value entries) := by
  induction entries with
  | nil => simp [place]
  | cons first rest ih =>
      obtain ⟨least, ordered⟩ := List.pairwise_cons.1 ordered
      simp only [place]
      split
      · next before =>
          refine List.pairwise_cons.2 ⟨?_, List.pairwise_cons.2 ⟨least, ordered⟩⟩
          intro entry member
          rcases List.mem_cons.1 member with rfl | member
          · exact before
          · exact String.lt_trans before (least entry member)
      · next notBefore =>
          split
          · next same =>
              subst same
              exact List.pairwise_cons.2 ⟨least, ordered⟩
          · next distinct =>
              refine List.pairwise_cons.2 ⟨?_, ih ordered⟩
              intro entry member
              rcases mem_place member with rfl | member
              · exact lt_of_not_lt_of_ne notBefore distinct
              · exact least entry member

/-- The value of the first entry with the name. -/
def find? (name : String) : List (String × α) → Option α
  | [] => none
  | entry :: rest => if name = entry.1 then some entry.2 else find? name rest

theorem find?_place (name other : String) (value : α) (entries : List (String × α)) :
    find? other (place name value entries) =
      if other = name then some value else find? other entries := by
  induction entries with
  | nil => simp [place, find?]
  | cons first rest ih =>
      simp only [place]
      split
      · simp [find?]
      · split
        · next same =>
            subst same
            by_cases found : other = first.1 <;> simp [find?, found]
        · next distinct =>
            simp only [find?, ih]
            by_cases found : other = first.1
            · subst found
              simp [Ne.symm distinct]
            · simp [found]

theorem find?_remove (name other : String) (entries : List (String × α)) :
    find? other (entries.filter fun entry => entry.1 != name) =
      if other = name then none else find? other entries := by
  induction entries with
  | nil => simp [find?]
  | cons first rest ih =>
      by_cases same : first.1 = name
      · subst same
        by_cases found : other = first.1 <;> simp_all [find?]
      · by_cases found : other = first.1 <;> simp_all [find?]

theorem find?_of_mem {entry : String × α} {entries : List (String × α)}
    (ordered : Ascending entries) (member : entry ∈ entries) :
    find? entry.1 entries = some entry.2 := by
  induction entries with
  | nil => cases member
  | cons first rest ih =>
      obtain ⟨least, ordered⟩ := List.pairwise_cons.1 ordered
      rcases List.mem_cons.1 member with rfl | member
      · simp [find?]
      · have distinct : entry.1 ≠ first.1 := (String.ne_of_lt (least entry member)).symm
        rw [find?, if_neg distinct, ih ordered member]

theorem mem_of_find? {name : String} {value : α} {entries : List (String × α)}
    (found : find? name entries = some value) : (name, value) ∈ entries := by
  induction entries with
  | nil => cases found
  | cons first rest ih =>
      rw [find?] at found
      split at found
      · next same =>
          cases found
          simp [same]
      · exact List.mem_cons_of_mem _ (ih found)

end Ascending

/-- A finite map from names to values. -/
structure Dictionary (α : Type) where
  entries : List (String × α)
  ascending : Ascending entries

namespace Dictionary

variable {α : Type}

/-- The dictionary without entries. -/
def empty : Dictionary α := ⟨[], List.Pairwise.nil⟩

instance : Inhabited (Dictionary α) := ⟨empty⟩

/-- The value of a name. -/
def get? (dictionary : Dictionary α) (name : String) : Option α :=
  Ascending.find? name dictionary.entries

/-- Whether the name has a value. -/
def contains (dictionary : Dictionary α) (name : String) : Bool :=
  (dictionary.get? name).isSome

/-- Gives the name this value and no other. -/
def insert (dictionary : Dictionary α) (name : String) (value : α) : Dictionary α :=
  ⟨Ascending.place name value dictionary.entries, Ascending.place_ascending dictionary.ascending⟩

/-- Takes the name out. -/
def erase (dictionary : Dictionary α) (name : String) : Dictionary α :=
  ⟨dictionary.entries.filter fun entry => entry.1 != name,
    dictionary.ascending.sublist List.filter_sublist⟩

/-- The dictionary of these bindings; of two for one name the later one holds. -/
def ofList (bindings : List (String × α)) : Dictionary α :=
  bindings.foldl (fun dictionary binding => dictionary.insert binding.1 binding.2) empty

/-- The names with values, in order. -/
def keys (dictionary : Dictionary α) : List String :=
  dictionary.entries.map Prod.fst

/-- The number of names with values. -/
def size (dictionary : Dictionary α) : Nat :=
  dictionary.entries.length

/-- An entry gives its name its value. -/
theorem get?_of_mem (dictionary : Dictionary α) {entry : String × α}
    (member : entry ∈ dictionary.entries) : dictionary.get? entry.1 = some entry.2 :=
  Ascending.find?_of_mem dictionary.ascending member

/-- A name has its value by an entry. -/
theorem mem_of_get? (dictionary : Dictionary α) {name : String} {value : α}
    (found : dictionary.get? name = some value) : (name, value) ∈ dictionary.entries :=
  Ascending.mem_of_find? found

/-- An insertion changes the value of its own name only. -/
theorem get?_insert (dictionary : Dictionary α) (name other : String) (value : α) :
    (dictionary.insert name value).get? other =
      if other = name then some value else dictionary.get? other :=
  Ascending.find?_place name other value dictionary.entries

/-- A removal takes away the value of its own name only. -/
theorem get?_erase (dictionary : Dictionary α) (name other : String) :
    (dictionary.erase name).get? other = if other = name then none else dictionary.get? other :=
  Ascending.find?_remove name other dictionary.entries

/-- A dictionary that is listed has only the values listed. -/
theorem mem_of_get?_ofList {bindings : List (String × α)} {name : String} {value : α}
    (found : (ofList bindings).get? name = some value) : (name, value) ∈ bindings := by
  have within (bindings : List (String × α)) (start : Dictionary α)
      (found : (bindings.foldl (fun dictionary binding =>
        dictionary.insert binding.1 binding.2) start).get? name = some value) :
      (name, value) ∈ bindings ∨ start.get? name = some value := by
    induction bindings generalizing start with
    | nil => exact .inr found
    | cons binding rest ih =>
        rcases ih _ found with member | before
        · exact .inl (List.mem_cons_of_mem _ member)
        · rw [get?_insert] at before
          split at before
          · next same =>
              cases before
              exact .inl (by simp [same])
          · exact .inr before
  rcases within bindings empty found with member | before
  · exact member
  · cases before

end Dictionary

end Parlance
