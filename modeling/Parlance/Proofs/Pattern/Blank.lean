import Parlance.Proofs.Pattern.Shape

/-!
# Patterns that read no separators

A pattern that reads no blanks, or none of other separators, cannot look past one. What it finds in a
text it also finds in a text that starts alike and then breaks off at a separator, as long as the
match lies before the separator; and where it finds nothing, it finds nothing in the other text
either.
-/

namespace Parlance

/-- All blank characters. -/
def Unicode.blanks : List Char :=
  blankRuns.flatMap fun run => (List.range' run.1 (run.2 + 1 - run.1)).map Char.ofNat

theorem Unicode.mem_blanks {char : Char} (blank : isBlank char = true) : char ∈ blanks := by
  obtain ⟨run, member, within⟩ := List.any_eq_true.1 blank
  simp only [Bool.and_eq_true, decide_eq_true_eq] at within
  refine List.mem_flatMap.2 ⟨run, member, List.mem_map.2 ⟨char.toNat, ?_, Char.ofNat_toNat char⟩⟩
  rw [List.mem_range'_1]
  omega

namespace Text

/-- All characters of the text are blanks. -/
def IsBlank (text : Text) : Prop := ∀ char ∈ text, Unicode.isBlank char = true

/-- The text does not start with a blank. -/
def StartsVisibly (text : Text) : Prop := ∀ char ∈ text.head?, Unicode.isBlank char = false

/-- The texts start alike, and behind that the latter one ends or goes on with a separator. -/
def BreaksOff (separators : List Char) (former latter : Text) : Prop :=
  ∃ shared rest behind, former = shared ++ rest ∧ latter = shared ++ behind ∧
    ∀ char ∈ behind.head?, char ∈ separators

variable {separators : List Char} {former latter gap : Text}

theorem BreaksOff.refl (text : Text) : BreaksOff separators text text :=
  ⟨text, [], [], by simp, by simp, by simp⟩

theorem BreaksOff.append (breaks : BreaksOff separators former latter) (text : Text) :
    BreaksOff separators (text ++ former) (text ++ latter) := by
  obtain ⟨shared, rest, behind, rfl, rfl, separated⟩ := breaks
  exact ⟨text ++ shared, rest, behind, by simp, by simp, separated⟩

/-- A text breaks off where a separator has been put in. -/
theorem BreaksOff.separator {char : Char} (separates : char ∈ separators) (former latter : Text) :
    BreaksOff separators former (char :: latter) := by
  refine ⟨[], former, char :: latter, rfl, rfl, ?_⟩
  rintro _ ⟨⟩
  exact separates

/-- A text breaks off where blanks have been put in. -/
theorem BreaksOff.blank (separate : Unicode.blanks ⊆ separators) (blank : gap.IsBlank)
    (breaks : BreaksOff separators former latter) : BreaksOff separators former (gap ++ latter) := by
  cases gap with
  | nil => exact breaks
  | cons char gap =>
      exact .separator (separate (Unicode.mem_blanks (blank char List.mem_cons_self))) _ _

end Text

/-- Whether the set has one of the characters. -/
def CharSet.hasAny (set : CharSet) (chars : List Char) : Bool := chars.any set.contains

theorem CharSet.not_contains_of_hasAny {set : CharSet} {chars : List Char} {char : Char}
    (none : set.hasAny chars = false) (member : char ∈ chars) : set.contains char = false := by
  rw [hasAny, List.any_eq_false] at none
  simpa using none char member

namespace Pattern

/-- Whether the pattern reads none of the separators and asks for nothing but what it reads. No round
of an unbounded repetition may be empty. -/
def avoids (separators : List Char) : Pattern → Bool
  | empty => true
  | chars set => !set.hasAny separators
  | assertion _ => false
  | seq first second => first.avoids separators && second.avoids separators
  | alt first second => first.avoids separators && second.avoids separators
  | rounds body _ most _ => body.avoids separators && (most.isSome || !body.nullable)

/-- What is found in front of one rest is found in front of the other one, and where nothing at all
is found, nothing is found there either. -/
structure Settles (rest behind : Text) (found other : Option Text) : Prop where
  missing : found = none → other = none
  finding : ∀ left, found = some (left ++ rest) → other = some (left ++ behind)

/-- What is accepted inside the rest is no match in front of it. -/
def Overshoots (rest : Text) (accept : Place → Option Text) : Prop :=
  ∀ there : Place, there.ahead.length < rest.length → ∀ left, accept there ≠ some (left ++ rest)

/-- The walk finds in front of one rest what it finds in front of the other, if what is accepted
behind the texts that it passes is alike. -/
def Walk.SettlesAlike (walk : Walk Text) (rest behind : Text) (texts : Text → Prop) : Prop :=
  ∀ inside before accept other,
    (∀ passed left last, inside = passed ++ left → texts passed →
      Settles rest behind (accept ⟨last, left ++ rest⟩) (other ⟨last, left ++ behind⟩)) →
    Overshoots rest accept →
    Settles rest behind (walk ⟨before, inside ++ rest⟩ accept)
      (walk ⟨before, inside ++ behind⟩ other)

variable {rest behind : Text} {found other : Option Text} {accept : Place → Option Text}
  {walk : Walk Text} {body : Text → Prop}

/-- Behind the end of what stands in front of the rest, the pattern finds nothing to read. -/
theorem Settles.of_overshoots (never : ∀ left, found ≠ some (left ++ rest)) :
    Settles rest behind found none where
  missing _ := rfl
  finding left here := absurd here (never left)

theorem Settles.orElse {next nextOther : Option Text} (first : Settles rest behind found other)
    (second : Settles rest behind next nextOther) :
    Settles rest behind (found <|> next) (other <|> nextOther) := by
  cases found with
  | none =>
      rw [first.missing rfl]
      exact second
  | some here =>
      refine ⟨nofun, fun left same => ?_⟩
      rw [first.finding left same]
      rfl

theorem Settles.prefer {onward onwardOther stop stopOther : Unit → Option Text} (greedy : Bool)
    (goes : Settles rest behind (onward ()) (onwardOther ()))
    (stays : Settles rest behind (stop ()) (stopOther ())) :
    Settles rest behind (Walk.prefer greedy onward stop) (Walk.prefer greedy onwardOther stopOther) := by
  cases greedy with
  | true => exact goes.orElse stays
  | false => exact stays.orElse goes

/-- A walk goes on, so what it accepts inside the rest is accepted there. -/
theorem Overshoots.through (overshoots : Overshoots rest accept) (passes : walk.Passes body) :
    Overshoots rest fun there => walk there accept := by
  intro there inside left found
  obtain ⟨last, passed, ahead, _, accepted⟩ := passes there accept _ found
  refine overshoots last ?_ left accepted
  rw [ahead, List.length_append] at inside
  omega

namespace Walk

theorem times_settlesAlike (settles : walk.SettlesAlike rest behind body)
    (passes : walk.Passes body) (count : Nat) :
    (times walk count).SettlesAlike rest behind (Rounds body (· = count)) := by
  induction count with
  | zero =>
      intro inside before accept other alike _
      exact alike [] inside before rfl (Rounds.nil rfl)
  | succ count ih =>
      intro inside before accept other alike overshoots
      refine settles inside before _ _ ?_ (overshoots.through (times_passes passes count))
      rintro passed left last rfl first
      refine ih left last accept other ?_ overshoots
      rintro more left last rfl others
      exact alike (passed ++ more) left last (by simp) (Rounds.cons first others (by simp))

theorem atMost_settlesAlike (settles : walk.SettlesAlike rest behind body)
    (passes : walk.Passes body) (greedy : Bool) (count : Nat) :
    (atMost walk greedy count).SettlesAlike rest behind (Rounds body (· ≤ count)) := by
  induction count with
  | zero =>
      intro inside before accept other alike _
      exact alike [] inside before rfl (Rounds.nil (Nat.le_refl 0))
  | succ count ih =>
      intro inside before accept other alike overshoots
      refine .prefer greedy ?_ (alike [] inside before rfl (Rounds.nil (Nat.zero_le _)))
      refine settles inside before _ _ ?_ (overshoots.through (atMost_passes passes greedy count))
      rintro passed left last rfl first
      refine ih left last accept other ?_ overshoots
      rintro more left last rfl others
      exact alike (passed ++ more) left last (by simp) (Rounds.cons first others (by omega))

/-- With a limit that is long enough, a repetition goes on or stops at every place. -/
theorem many_eq_prefer (passes : walk.Passes body) (nonempty : ¬body []) (greedy : Bool)
    {limit : Text} {here : Place} (enough : here.ahead.length ≤ limit.length)
    (accept : Place → Option Text) : many walk greedy limit here accept =
      prefer greedy (fun _ => walk here fun there => many walk greedy limit.tail there accept)
        (fun _ => accept here) := by
  cases limit with
  | cons char limit => rfl
  | nil =>
      have nothing : walk here (fun there => many walk greedy [] there accept) = none := by
        rw [Option.eq_none_iff_forall_ne_some]
        intro result found
        obtain ⟨there, passed, ahead, spells, _⟩ := passes here _ result found
        have empty : here.ahead = [] := List.length_eq_zero_iff.1 (Nat.le_zero.1 enough)
        rw [empty, eq_comm, List.append_eq_nil_iff] at ahead
        exact nonempty (ahead.1 ▸ spells)
      rw [List.tail_nil, nothing, many]
      cases greedy <;> simp [prefer]

theorem many_settlesAlike (settles : walk.SettlesAlike rest behind body)
    (passes : walk.Passes body) (nonempty : ¬body []) (greedy : Bool) {limit limitOther : Text}
    {inside : Text} (enough : (inside ++ rest).length ≤ limit.length)
    (enoughToo : (inside ++ behind).length ≤ limitOther.length) (before : Option Char)
    {accept other : Place → Option Text}
    (alike : ∀ passed left last, inside = passed ++ left → Rounds body (fun _ => True) passed →
      Settles rest behind (accept ⟨last, left ++ rest⟩) (other ⟨last, left ++ behind⟩))
    (overshoots : Overshoots rest accept) :
    Settles rest behind (many walk greedy limit ⟨before, inside ++ rest⟩ accept)
      (many walk greedy limitOther ⟨before, inside ++ behind⟩ other) := by
  -- Every round makes what is left shorter, so the limits stay long enough.
  rw [many_eq_prefer passes nonempty greedy enough, many_eq_prefer passes nonempty greedy enoughToo]
  refine .prefer greedy ?_ (alike [] inside before rfl (Rounds.nil trivial))
  refine settles inside before _ _ ?_ (overshoots.through (many_passes passes greedy limit.tail))
  rintro passed left last rfl first
  have positive : 0 < passed.length := by
    rw [List.length_pos_iff]
    rintro rfl
    exact nonempty first
  simp only [List.length_append] at enough enoughToo
  refine many_settlesAlike settles passes nonempty greedy ?_ ?_ last ?_ overshoots
  · simp only [List.length_append, List.length_tail]
    omega
  · simp only [List.length_append, List.length_tail]
    omega
  · rintro more left last rfl others
    exact alike (passed ++ more) left last (by simp) (Rounds.cons first others (by simp))
termination_by inside.length
decreasing_by
  subst_vars
  simp only [List.length_append]
  omega

end Walk

/-- A pattern that reads no separators finds the same in front of any two rests, if the latter one
ends at once or starts with a separator. -/
theorem walk_settlesAlike {separators : List Char} {pattern : Pattern}
    (avoids : pattern.avoids separators = true) (separated : ∀ char ∈ behind.head?, char ∈ separators) :
    (pattern.walk : Walk Text).SettlesAlike rest behind pattern.Spells := by
  induction pattern with
  | empty =>
      intro inside before accept other alike _
      exact alike [] inside before rfl rfl
  | chars set =>
      intro inside before accept other alike overshoots
      rw [Pattern.avoids, Bool.not_eq_true'] at avoids
      cases inside with
      | nil =>
          have nothing : (chars set).walk ⟨before, [] ++ behind⟩ other = Option.none := by
            refine stops_chars ?_ before other
            intro char head
            exact CharSet.not_contains_of_hasAny avoids (separated char head)
          rw [nothing]
          refine .of_overshoots fun left found => ?_
          obtain ⟨there, passed, ahead, ⟨char, _, rfl⟩, accepted⟩ := walk_passes _ _ _ _ found
          refine overshoots there ?_ left accepted
          have longer := congrArg List.length (show rest = [char] ++ there.ahead from ahead)
          simp only [List.length_append, List.length_singleton] at longer
          omega
      | cons char inside =>
          simp only [walk, Place.advance?, List.cons_append]
          split
          · rename_i member
            exact alike [char] inside (Option.some char) rfl ⟨char, member, rfl⟩
          · exact .of_overshoots (by simp)
  | assertion _ => cases avoids
  | seq first second ihFirst ihSecond =>
      obtain ⟨avoidsFirst, avoidsSecond⟩ := Bool.and_eq_true_iff.1 avoids
      intro inside before accept other alike overshoots
      refine ihFirst avoidsFirst inside before _ _ ?_ (overshoots.through second.walk_passes)
      rintro passed left last rfl spells
      refine ihSecond avoidsSecond left last accept other ?_ overshoots
      rintro more left last rfl spellsMore
      exact alike (passed ++ more) left last (by simp) ⟨passed, more, rfl, spells, spellsMore⟩
  | alt first second ihFirst ihSecond =>
      obtain ⟨avoidsFirst, avoidsSecond⟩ := Bool.and_eq_true_iff.1 avoids
      intro inside before accept other alike overshoots
      refine .orElse ?_ ?_
      · refine ihFirst avoidsFirst inside before accept other ?_ overshoots
        exact fun passed left last split spells => alike passed left last split (.inl spells)
      · refine ihSecond avoidsSecond inside before accept other ?_ overshoots
        exact fun passed left last split spells => alike passed left last split (.inr spells)
  | rounds body least most greedy ih =>
      obtain ⟨avoidsBody, bounded⟩ := Bool.and_eq_true_iff.1 avoids
      have settles := ih avoidsBody
      have passes := body.walk_passes (α := Text)
      intro inside before accept other alike overshoots
      refine Walk.times_settlesAlike settles passes least inside before _ _ ?_ ?_
      · rintro passed left last rfl needed
        cases most with
        | some limit =>
            refine Walk.atMost_settlesAlike settles passes greedy _ left last accept other ?_ overshoots
            rintro more left last rfl optional
            refine alike (passed ++ more) left last (by simp) (Rounds.append needed optional ?_)
            simp only [Option.mem_some_iff, forall_eq']
            omega
        | none =>
            have nonempty : ¬body.Spells [] := fun spells => by
              rw [nullable_of_spells spells] at bounded
              cases bounded
            refine Walk.many_settlesAlike settles passes nonempty greedy (Nat.le_refl _)
              (Nat.le_refl _) last ?_ overshoots
            rintro more left last rfl optional
            refine alike (passed ++ more) left last (by simp) (Rounds.append needed optional ?_)
            simp only [Option.not_mem_none, false_implies, implies_true, and_true]
            omega
      · cases most with
        | some limit => exact overshoots.through (Walk.atMost_passes passes greedy _)
        | none =>
            exact overshoots.through fun here => Walk.many_passes passes greedy here.ahead here

/-- How far the walk gets is the same in front of two texts, if the latter one breaks off. -/
theorem settles_of_breaksOff {separators : List Char} {pattern : Pattern} {former latter : Text}
    (avoids : pattern.avoids separators = true) (breaks : Text.BreaksOff separators former latter)
    (text : Text) :
    ∃ shared rest behind, former = shared ++ rest ∧ latter = shared ++ behind ∧
      Settles rest behind (pattern.walk (.start (text ++ former)) fun there => some there.ahead)
        (pattern.walk (.start (text ++ latter)) fun there => some there.ahead) := by
  obtain ⟨shared, rest, behind, rfl, rfl, separated⟩ := breaks
  refine ⟨shared, rest, behind, rfl, rfl, ?_⟩
  rw [← List.append_assoc, ← List.append_assoc]
  refine walk_settlesAlike avoids separated (text ++ shared) none _ _ ?_ ?_
  · intro passed left last _ _
    refine ⟨nofun, fun other same => ?_⟩
    rw [List.append_cancel_right (Option.some.inj same)]
  · intro there inside left found
    rw [Option.some.inj found, List.length_append] at inside
    omega

/-- A pattern that reads no separators does not start with one. -/
theorem canStart_of_avoids {separators : List Char} {pattern : Pattern} {char : Char}
    (avoids : pattern.avoids separators = true) (separates : char ∈ separators) :
    pattern.canStart char = false := by
  induction pattern with
  | empty => rfl
  | chars set => exact CharSet.not_contains_of_hasAny (by simpa [Pattern.avoids] using avoids) separates
  | assertion _ => rfl
  | seq first second ihFirst ihSecond =>
      obtain ⟨avoidsFirst, avoidsSecond⟩ := Bool.and_eq_true_iff.1 avoids
      rw [canStart, ihFirst avoidsFirst, ihSecond avoidsSecond, Bool.and_false, Bool.or_false]
  | alt first second ihFirst ihSecond =>
      obtain ⟨avoidsFirst, avoidsSecond⟩ := Bool.and_eq_true_iff.1 avoids
      rw [canStart, ihFirst avoidsFirst, ihSecond avoidsSecond, Bool.or_false]
  | rounds body least most greedy ih => exact ih (Bool.and_eq_true_iff.1 avoids).1

end Pattern

namespace Matcher

variable {separators : List Char} {matcher : Matcher} {body : Pattern} {text former latter : Text}

/-- A match is found in front of a text that breaks off as well. -/
theorem match?_of_breaksOff (shape : matcher.searcher.body? = some body)
    (avoids : body.avoids separators = true) (breaks : Text.BreaksOff separators former latter)
    (found : matcher.match? (text ++ former) = some text) :
    matcher.match? (text ++ latter) = some text := by
  obtain ⟨shared, rest, behind, rfl, rfl, settles⟩ :=
    Pattern.settles_of_breaksOff avoids breaks text
  rw [match?_eq_walk shape, Option.filter_eq_some_iff, Option.map_eq_some_iff] at found
  obtain ⟨⟨left, walked, reached⟩, nonempty⟩ := found
  obtain ⟨there, passed, ahead, _, arrived⟩ := body.walk_passes _ _ _ walked
  cases arrived
  -- What the walk has passed is the match, so what is left is the rest behind it.
  have split : text ++ (shared ++ rest) = passed ++ there.ahead := ahead
  rw [split, Text.upTo_append] at reached
  subst reached
  rw [← List.append_cancel_left split] at walked
  rw [match?_eq_walk shape, settles.finding shared walked, Option.map_some, Text.upTo_append]
  simpa using nonempty

/-- Where there is no match, there is none in front of a text that breaks off either. -/
theorem match?_eq_none_of_breaksOff (shape : matcher.searcher.body? = some body)
    (something : body.nullable = false) (avoids : body.avoids separators = true)
    (breaks : Text.BreaksOff separators former latter) (none : matcher.match? (text ++ former) = none) :
    matcher.match? (text ++ latter) = Option.none := by
  obtain ⟨shared, rest, behind, rfl, rfl, settles⟩ :=
    Pattern.settles_of_breaksOff avoids breaks text
  rw [match?_eq_walk shape] at none ⊢
  rw [settles.missing, Option.map_none, Option.filter_none]
  rw [Option.eq_none_iff_forall_ne_some]
  intro left walked
  obtain ⟨there, passed, ahead, spells, arrived⟩ := body.walk_passes _ _ _ walked
  cases arrived
  have split : text ++ (shared ++ rest) = passed ++ there.ahead := ahead
  have nonempty : passed ≠ [] := by
    rintro rfl
    rw [Pattern.nullable_of_spells spells] at something
    cases something
  rw [walked, split, Option.map_some, Text.upTo_append] at none
  simp [nonempty] at none

end Matcher

end Parlance
