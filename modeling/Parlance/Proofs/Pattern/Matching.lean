import Parlance.Proofs.Pattern.Anchor

/-!
# What a pattern matches

`Pattern.Spells` says which texts a pattern matches, without order of preference and with all
conditions on the surroundings taken to hold. Direct matching finds only such texts.
-/

namespace Parlance

namespace Pattern

/-- The text is made of as many parts as the condition allows, each of them one round. -/
def Rounds (body : Text → Prop) (counts : Nat → Prop) (text : Text) : Prop :=
  ∃ parts : List Text, text = parts.flatten ∧ (∀ part ∈ parts, body part) ∧ counts parts.length

/-- The pattern matches the text, if conditions on the surroundings are taken to hold. -/
def Spells : Pattern → Text → Prop
  | empty, text => text = []
  | chars set, text => ∃ char, set.contains char = true ∧ text = [char]
  | assertion _, text => text = []
  | seq first second, text =>
      ∃ left right, text = left ++ right ∧ first.Spells left ∧ second.Spells right
  | alt first second, text => first.Spells text ∨ second.Spells text
  | rounds body least most _, text =>
      Rounds body.Spells (fun count => least ≤ count ∧ ∀ limit ∈ most, count ≤ max least limit) text

/-- The walk passes one of these texts before it offers a place. -/
def Walk.Passes {α : Type} (walk : Walk α) (texts : Text → Prop) : Prop :=
  ∀ here accept result, walk here accept = some result →
    ∃ there text, here.ahead = text ++ there.ahead ∧ texts text ∧ accept there = some result

section

variable {body : Text → Prop}

theorem Rounds.nil {counts : Nat → Prop} (none : counts 0) : Rounds body counts [] :=
  ⟨[], rfl, by simp, none⟩

theorem Rounds.cons {counts more : Nat → Prop} {part rest : Text} (first : body part)
    (others : Rounds body counts rest) (longer : ∀ count, counts count → more (count + 1)) :
    Rounds body more (part ++ rest) := by
  obtain ⟨parts, rfl, every, count⟩ := others
  refine ⟨part :: parts, rfl, ?_, longer _ count⟩
  intro other member
  rcases List.mem_cons.1 member with rfl | member
  · exact first
  · exact every other member

/-- Rounds in a row with other rounds behind them. -/
theorem Rounds.append {counts others more : Nat → Prop} {left right : Text}
    (former : Rounds body counts left) (latter : Rounds body others right)
    (together : ∀ first second, counts first → others second → more (first + second)) :
    Rounds body more (left ++ right) := by
  obtain ⟨parts, rfl, every, count⟩ := former
  obtain ⟨partsBehind, rfl, everyBehind, countBehind⟩ := latter
  refine ⟨parts ++ partsBehind, by simp, ?_, ?_⟩
  · intro part member
    rcases List.mem_append.1 member with member | member
    · exact every part member
    · exact everyBehind part member
  · rw [List.length_append]
    exact together _ _ count countBehind

end

namespace Walk

variable {α : Type} {walk : Walk α} {body : Text → Prop}

theorem prefer_eq_some {greedy : Bool} {onward stop : Unit → Option α} {result : α}
    (preferred : prefer greedy onward stop = some result) :
    onward () = some result ∨ stop () = some result := by
  cases greedy with
  | true =>
      rw [prefer, if_pos rfl] at preferred
      cases first : onward () with
      | none => exact .inr (by simpa [first] using preferred)
      | some found => exact .inl (by simpa [first] using preferred)
  | false =>
      rw [prefer, if_neg (by simp)] at preferred
      cases first : stop () with
      | none => exact .inl (by simpa [first] using preferred)
      | some found => exact .inr (by simpa [first] using preferred)

theorem times_passes (passes : walk.Passes body) (count : Nat) :
    (times walk count).Passes (Rounds body (· = count)) := by
  induction count with
  | zero =>
      intro here accept result accepted
      exact ⟨here, [], rfl, Rounds.nil rfl, accepted⟩
  | succ count ih =>
      intro here accept result accepted
      obtain ⟨middle, part, ahead, first, accepted⟩ := passes here _ result accepted
      obtain ⟨there, rest, aheadBehind, others, accepted⟩ := ih middle accept result accepted
      refine ⟨there, part ++ rest, ?_, Rounds.cons first others (by simp), accepted⟩
      rw [ahead, aheadBehind, List.append_assoc]

theorem atMost_passes (passes : walk.Passes body) (greedy : Bool) (count : Nat) :
    (atMost walk greedy count).Passes (Rounds body (· ≤ count)) := by
  induction count with
  | zero =>
      intro here accept result accepted
      exact ⟨here, [], rfl, Rounds.nil (Nat.le_refl 0), accepted⟩
  | succ count ih =>
      intro here accept result accepted
      rcases prefer_eq_some accepted with onward | stop
      · obtain ⟨middle, part, ahead, first, accepted⟩ := passes here _ result onward
        obtain ⟨there, rest, aheadBehind, others, accepted⟩ := ih middle accept result accepted
        refine ⟨there, part ++ rest, ?_, Rounds.cons first others (by omega), accepted⟩
        rw [ahead, aheadBehind, List.append_assoc]
      · exact ⟨here, [], rfl, Rounds.nil (Nat.zero_le _), stop⟩

theorem many_passes (passes : walk.Passes body) (greedy : Bool) (limit : Text) :
    (many walk greedy limit).Passes (Rounds body fun _ => True) := by
  induction limit with
  | nil =>
      intro here accept result accepted
      exact ⟨here, [], rfl, Rounds.nil trivial, accepted⟩
  | cons char limit ih =>
      intro here accept result accepted
      rcases prefer_eq_some accepted with onward | stop
      · obtain ⟨middle, part, ahead, first, accepted⟩ := passes here _ result onward
        obtain ⟨there, rest, aheadBehind, others, accepted⟩ := ih middle accept result accepted
        refine ⟨there, part ++ rest, ?_, Rounds.cons first others (by simp), accepted⟩
        rw [ahead, aheadBehind, List.append_assoc]
      · exact ⟨here, [], rfl, Rounds.nil trivial, stop⟩

end Walk

/-- Walking through a pattern passes a text that the pattern matches. -/
theorem walk_passes {α : Type} (pattern : Pattern) :
    (pattern.walk : Walk α).Passes pattern.Spells := by
  induction pattern with
  | empty =>
      intro here accept result accepted
      exact ⟨here, [], rfl, rfl, accepted⟩
  | chars set =>
      intro here accept result accepted
      obtain ⟨there, moved, accepted⟩ := Option.bind_eq_some_iff.1 accepted
      obtain ⟨before, ahead⟩ := here
      cases ahead with
      | nil => simp [Place.advance?] at moved
      | cons char rest =>
          by_cases member : set.contains char = true
          · simp only [Place.advance?, member, if_true, Option.some.injEq] at moved
            subst moved
            exact ⟨_, [char], rfl, ⟨char, member, rfl⟩, accepted⟩
          · simp [Place.advance?, member] at moved
  | assertion condition =>
      intro here accept result accepted
      rw [walk] at accepted
      split at accepted
      · exact ⟨here, [], rfl, rfl, accepted⟩
      · cases accepted
  | seq first second ihFirst ihSecond =>
      intro here accept result accepted
      obtain ⟨middle, left, ahead, spellsLeft, accepted⟩ := ihFirst here _ result accepted
      obtain ⟨there, right, aheadBehind, spellsRight, accepted⟩ :=
        ihSecond middle accept result accepted
      refine ⟨there, left ++ right, ?_, ⟨left, right, rfl, spellsLeft, spellsRight⟩, accepted⟩
      rw [ahead, aheadBehind, List.append_assoc]
  | alt first second ihFirst ihSecond =>
      intro here accept result accepted
      rw [walk] at accepted
      cases preferred : first.walk here accept with
      | some found =>
          rw [preferred] at accepted
          cases accepted
          obtain ⟨there, text, ahead, spells, accepted⟩ := ihFirst here accept _ preferred
          exact ⟨there, text, ahead, .inl spells, accepted⟩
      | none =>
          rw [preferred] at accepted
          obtain ⟨there, text, ahead, spells, accepted⟩ := ihSecond here accept result accepted
          exact ⟨there, text, ahead, .inr spells, accepted⟩
  | rounds body least most greedy ih =>
      intro here accept result accepted
      obtain ⟨middle, left, ahead, needed, accepted⟩ :=
        Walk.times_passes ih least here _ result accepted
      cases most with
      | some limit =>
          obtain ⟨there, right, aheadBehind, optional, accepted⟩ :=
            Walk.atMost_passes ih greedy (limit - least) middle accept result accepted
          refine ⟨there, left ++ right, ?_, Rounds.append needed optional ?_, accepted⟩
          · rw [ahead, aheadBehind, List.append_assoc]
          · simp only [Option.mem_some_iff, forall_eq']
            omega
      | none =>
          obtain ⟨there, right, aheadBehind, optional, accepted⟩ :=
            Walk.many_passes ih greedy middle.ahead middle accept result accepted
          refine ⟨there, left ++ right, ?_, Rounds.append needed optional ?_, accepted⟩
          · rw [ahead, aheadBehind, List.append_assoc]
          · intro first second same _
            refine ⟨by omega, ?_⟩
            rintro limit ⟨⟩

end Pattern

theorem Text.upTo_append (found rest : Text) : (found ++ rest).upTo rest = found := by
  simp [Text.upTo]

/-- An anchored pattern that is matched directly finds only texts that it matches. -/
theorem Searcher.spells_of_find? {pattern : Pattern} (anchored : pattern.anchored = true)
    {text found : Text} (finds : (direct pattern).find? text = some found) :
    pattern.Spells found := by
  simp only [find?, anchored, if_true, Option.map_eq_some_iff] at finds
  obtain ⟨rest, walked, rfl⟩ := finds
  obtain ⟨there, passed, ahead, spells, arrived⟩ := pattern.walk_passes _ _ rest walked
  cases arrived
  have text_eq : text = passed ++ there.ahead := ahead
  rw [text_eq, Text.upTo_append]
  exact spells

end Parlance
