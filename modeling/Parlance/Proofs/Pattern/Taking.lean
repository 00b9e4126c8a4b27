import Parlance.Proofs.Pattern.Matching

/-!
# How far a pattern reaches

Matching a text forward: a pattern takes a text in front of some rest if whatever is accepted behind
the text is accepted by the walk, and it stops in front of a text if nothing is. A greedy repetition
takes rounds up to where its body stops. So the token at a place is known from the characters of the
token and from the one behind it.
-/

namespace Parlance

namespace Pattern

variable {α : Type}

/-- What is accepted behind the text is accepted in front of it. -/
def Walk.Takes (walk : Walk α) (text rest : Text) : Prop :=
  ∀ before accept result, (∀ last, accept ⟨last, rest⟩ = some result) →
    walk ⟨before, text ++ rest⟩ accept = some result

/-- In front of the text nothing is accepted. -/
def Walk.Stops (walk : Walk α) (ahead : Text) : Prop :=
  ∀ before accept, walk ⟨before, ahead⟩ accept = none

/-- The pattern takes the text and leaves the rest. -/
abbrev Takes (pattern : Pattern) (text rest : Text) : Prop :=
  (pattern.walk : Walk Text).Takes text rest

/-- The pattern matches nothing at the start of the text. -/
abbrev Stops (pattern : Pattern) (ahead : Text) : Prop :=
  (pattern.walk : Walk Text).Stops ahead

namespace Walk

variable {walk : Walk α} {part text rest ahead : Text}

theorem prefer_of_some {onward stop : Unit → Option α} {result : α}
    (goes : onward () = some result) : prefer true onward stop = some result := by
  simp [prefer, goes]

theorem prefer_of_none {onward stop : Unit → Option α} (stays : onward () = none) :
    prefer true onward stop = stop () := by
  simp [prefer, stays]

/-- A greedy repetition takes the rounds up to where its body stops. -/
theorem many_takes {parts : List Text} (each : ∀ part ∈ parts, ∀ rest, walk.Takes part rest)
    (stops : walk.Stops rest) {limit : Text} (enough : parts.length ≤ limit.length) :
    (many walk true limit).Takes parts.flatten rest := by
  induction parts generalizing limit with
  | nil =>
      intro before accept result accepted
      cases limit with
      | nil => exact accepted before
      | cons char limit =>
          rw [many, prefer_of_none (stops before _)]
          exact accepted before
  | cons part parts ih =>
      intro before accept result accepted
      cases limit with
      | nil => cases enough
      | cons char limit =>
          rw [List.flatten_cons, List.append_assoc, many]
          refine prefer_of_some (each part (by simp) _ before _ result ?_)
          intro last
          refine ih (fun other member => each other (by simp [member])) ?_ last accept result accepted
          simpa using enough

theorem atMost_one_takes (takes : walk.Takes part rest) :
    (atMost walk true 1).Takes part rest := by
  intro before accept result accepted
  rw [atMost]
  exact prefer_of_some (takes before _ result accepted)

theorem atMost_one_takes_nil (stops : walk.Stops rest) : (atMost walk true 1).Takes [] rest := by
  intro before accept result accepted
  rw [atMost, prefer_of_none (stops before _)]
  exact accepted before

end Walk

variable {first second body : Pattern} {set : CharSet} {char : Char} {text left right rest ahead : Text}

theorem takes_empty (rest : Text) : empty.Takes [] rest := by
  intro before accept result accepted
  exact accepted before

theorem takes_chars (member : set.contains char = true) (rest : Text) :
    (chars set).Takes [char] rest := by
  intro before accept result accepted
  simp [walk, Place.advance?, member, accepted]

theorem stops_chars (apart : ∀ char ∈ ahead.head?, set.contains char = false) :
    (chars set).Stops ahead := by
  intro before accept
  cases ahead with
  | nil => simp [walk, Place.advance?]
  | cons char rest => simp [walk, Place.advance?, apart char rfl]

theorem takes_seq (takes : first.Takes left (right ++ rest)) (takesBehind : second.Takes right rest) :
    (seq first second).Takes (left ++ right) rest := by
  intro before accept result accepted
  rw [List.append_assoc]
  exact takes before _ result fun last => takesBehind last accept result accepted

theorem stops_seq (stops : first.Stops ahead) : (seq first second).Stops ahead :=
  fun before _ => stops before _

/-- A sequence stops behind its first character if its second part does. -/
theorem stops_seq_chars (stops : second.Stops rest) : (seq (chars set) second).Stops (char :: rest) := by
  intro before accept
  by_cases member : set.contains char = true
  · simp only [walk, Place.advance?, member, if_true, Option.bind_some]
    exact stops _ _
  · simp [walk, Place.advance?, member]

theorem takes_alt_left (takes : first.Takes text rest) : (alt first second).Takes text rest := by
  intro before accept result accepted
  simp [walk, takes before accept result accepted]

theorem takes_alt_right (stops : first.Stops (text ++ rest)) (takes : second.Takes text rest) :
    (alt first second).Takes text rest := by
  intro before accept result accepted
  simp [walk, stops before accept, takes before accept result accepted]

theorem stops_alt (stops : first.Stops ahead) (stopsToo : second.Stops ahead) :
    (alt first second).Stops ahead := by
  intro before accept
  simp [walk, stops before accept, stopsToo before accept]

/-- A greedy repetition without bounds takes the rounds up to where its body stops. -/
theorem takes_star {parts : List Text} (each : ∀ part ∈ parts, ∀ rest, body.Takes part rest)
    (nonempty : ∀ part ∈ parts, part ≠ []) (stops : body.Stops rest) :
    (rounds body 0 none true).Takes parts.flatten rest := by
  intro before accept result accepted
  refine Walk.many_takes each stops ?_ before accept result accepted
  have short : parts.length ≤ parts.flatten.length := by
    clear each
    induction parts with
    | nil => exact Nat.le_refl _
    | cons part parts ih =>
        have positive := List.length_pos_iff.2 (nonempty part (by simp))
        have behind := ih fun other member => nonempty other (by simp [member])
        simp only [List.length_cons, List.flatten_cons, List.length_append]
        omega
  simp only [List.length_append]
  omega

/-- A repetition of one character takes all characters of the set that stand in a row. -/
theorem takes_chars_star (within : ∀ char ∈ text, set.contains char = true)
    (apart : ∀ char ∈ rest.head?, set.contains char = false) :
    (rounds (chars set) 0 none true).Takes text rest := by
  have whole : text = (text.map fun char => [char]).flatten := by simp [← List.flatMap_def]
  rw [whole]
  refine takes_star ?_ (by simp) (stops_chars apart)
  intro part member rest
  obtain ⟨char, among, rfl⟩ := List.mem_map.1 member
  exact takes_chars (within char among) rest

/-- A repetition that needs one character takes them all alike. -/
theorem takes_chars_plus (within : ∀ char ∈ text, set.contains char = true) (some : text ≠ [])
    (apart : ∀ char ∈ rest.head?, set.contains char = false) :
    (rounds (chars set) 1 none true).Takes text rest := by
  obtain ⟨char, others, rfl⟩ := List.exists_cons_of_ne_nil some
  have star : (rounds (chars set) 0 none true).Takes others rest :=
    takes_chars_star (fun other member => within other (by simp [member])) apart
  intro before accept result accepted
  have takes := takes_chars (within char (by simp)) (others ++ rest)
  exact takes before _ result fun last => star last accept result accepted

theorem takes_optional (takes : body.Takes text rest) :
    (rounds body 0 (some 1) true).Takes text rest :=
  Walk.atMost_one_takes takes

theorem takes_optional_nil (stops : body.Stops rest) :
    (rounds body 0 (some 1) true).Takes [] rest :=
  Walk.atMost_one_takes_nil stops

/-! ### Stopping at a character -/

/-- The characters with which a match of the pattern may start. -/
def canStart : Pattern → Char → Bool
  | empty, _ => false
  | chars set, char => set.contains char
  | assertion _, _ => false
  | seq first second, char => first.canStart char || first.nullable && second.canStart char
  | alt first second, char => first.canStart char || second.canStart char
  | rounds body _ _ _, char => body.canStart char

theorem nullable_of_spells {pattern : Pattern} (spells : pattern.Spells []) :
    pattern.nullable = true := by
  induction pattern with
  | empty => rfl
  | chars set =>
      obtain ⟨_, _, same⟩ := spells
      cases same
  | assertion _ => rfl
  | seq first second ihFirst ihSecond =>
      obtain ⟨left, right, split, spellsLeft, spellsRight⟩ := spells
      obtain ⟨rfl, rfl⟩ := List.append_eq_nil_iff.1 split.symm
      simp [nullable, ihFirst spellsLeft, ihSecond spellsRight]
  | alt first second ihFirst ihSecond =>
      rcases spells with spells | spells
      · simp [nullable, ihFirst spells]
      · simp [nullable, ihSecond spells]
  | rounds body least most greedy ih =>
      obtain ⟨parts, whole, each, bounds, _⟩ := spells
      cases parts with
      | nil =>
          have none : least = 0 := Nat.le_zero.1 bounds
          simp [nullable, none]
      | cons part parts =>
          obtain ⟨rfl, _⟩ := List.append_eq_nil_iff.1 (whole.symm : part ++ parts.flatten = [])
          simp [nullable, ih (each [] (by simp))]

theorem exists_cons_mem_of_flatten {parts : List Text} (whole : char :: rest = parts.flatten) :
    ∃ part, char :: part ∈ parts := by
  induction parts with
  | nil => cases whole
  | cons part parts ih =>
      cases part with
      | nil =>
          obtain ⟨part, member⟩ := ih whole
          exact ⟨part, List.mem_cons_of_mem _ member⟩
      | cons other part =>
          cases whole
          exact ⟨part, List.mem_cons_self⟩

theorem canStart_of_spells {pattern : Pattern} (spells : pattern.Spells (char :: rest)) :
    pattern.canStart char = true := by
  induction pattern generalizing rest with
  | empty => cases spells
  | chars set =>
      obtain ⟨_, member, same⟩ := spells
      cases same
      exact member
  | assertion _ => cases spells
  | seq first second ihFirst ihSecond =>
      obtain ⟨left, right, split, spellsLeft, spellsRight⟩ := spells
      cases left with
      | nil =>
          rw [List.nil_append] at split
          rw [← split] at spellsRight
          simp [canStart, nullable_of_spells spellsLeft, ihSecond spellsRight]
      | cons other left =>
          cases split
          simp [canStart, ihFirst spellsLeft]
  | alt first second ihFirst ihSecond =>
      rcases spells with spells | spells
      · simp [canStart, ihFirst spells]
      · simp [canStart, ihSecond spells]
  | rounds body least most greedy ih =>
      obtain ⟨parts, whole, each, _⟩ := spells
      obtain ⟨part, member⟩ := exists_cons_mem_of_flatten whole
      exact ih (each _ member)

/-- A pattern stops in front of a character with which none of its matches start. -/
theorem stops_of_canStart {pattern : Pattern} (never : pattern.canStart char = false)
    (something : pattern.nullable = false) (rest : Text) : pattern.Stops (char :: rest) := by
  intro before accept
  cases walked : pattern.walk ⟨before, char :: rest⟩ accept with
  | none => rfl
  | some result =>
      obtain ⟨there, passed, ahead, spells, _⟩ := pattern.walk_passes _ _ _ walked
      cases passed with
      | nil =>
          rw [nullable_of_spells spells] at something
          cases something
      | cons other passed =>
          cases ahead
          rw [canStart_of_spells spells] at never
          cases never

end Pattern

end Parlance
