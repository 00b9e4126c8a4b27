import Parlance.Proofs.Tree.Round

/-!
# Progress

Whatever is matched is not empty, so every child and everything that is skipped moves the cursor on.
Fuel beyond what is left of the text therefore makes no difference. `Parsing.inside` parses the rest
of a group without regard to fuel, and is known by the equation `inside_eq`: it goes one round, and
goes on by itself.
-/

namespace Parlance

theorem Matcher.byteLength_pos_of_matchAt? {matcher : Matcher} {cursor : Cursor} {marker : Text}
    (found : matcher.matchAt? cursor = some marker) : 0 < marker.byteLength := by
  obtain ⟨ahead, _, found⟩ := Option.bind_eq_some_iff.1 found
  have nonempty := Matcher.match?_ne_nil found
  exact Nat.pos_of_ne_zero fun zero => nonempty (Text.byteLength_eq_zero.1 zero)

/-- The group is never closed before the point from which it is parsed. -/
def GroupBody.Advances (inner : GroupBody) : Prop :=
  ∀ frame candidates pending cursor closed,
    inner frame candidates pending cursor = .ok closed → cursor.offset ≤ closed.cursor.offset

/-- Both parse groups alike from points behind the offset. -/
def GroupBody.AgreeBeyond (inner other : GroupBody) (offset : Nat) : Prop :=
  ∀ frame candidates pending cursor, offset < cursor.offset →
    inner frame candidates pending cursor = other frame candidates pending cursor

namespace Parsing

variable {parsing : Parsing} {inner other : GroupBody} {cursor after : Cursor} {term : Term}
  {marker : Text} {node : Node}

/-- The same parse with another term between tokens. -/
def skipping (parsing : Parsing) (aether : Option TermId) : Parsing :=
  { parsing with grammar := { parsing.grammar with aether } }

@[simp] theorem skipping_aether (parsing : Parsing) (aether : Option TermId) :
    (parsing.skipping aether).grammar.aether = aether := rfl

@[simp] theorem skipping_term? (parsing : Parsing) (aether : Option TermId) (id : TermId) :
    (parsing.skipping aether).grammar.term? id = parsing.grammar.term? id := rfl

@[simp] theorem skipping_options (parsing : Parsing) (aether : Option TermId) :
    (parsing.skipping aether).options = parsing.options := rfl

@[simp] theorem skipping_group (parsing : Parsing) (aether : Option TermId) :
    (parsing.skipping aether).group = parsing.group := rfl

/-- How a group goes on from a point inside it where these candidates are tried and this term may be
skipped. Behind the next child, or what is skipped, it is parsed by `inner`. -/
def proceed (parsing : Parsing) (inner : GroupBody) (tried : List TermId)
    (aether : Option TermId) : GroupBody := fun frame candidates pending cursor =>
  if parsing.size ≤ cursor.offset then
    match frame.stop with
    | none => .ok ⟨[], pending, [], cursor⟩
    | some _ => .error (.unterminated frame.name frame.marker frame.opened.offset)
  else do
    match ← parsing.tryCandidates inner cursor tried none with
    | .matched term node after =>
        let rest ← inner frame (term.candidatesAfter candidates) [] after
        return { rest with children := node.withLeading pending :: rest.children }
    | .unmatched rejected =>
        match frame.stop.bind (·.matchAt? cursor) with
        | some marker => return ⟨[], pending, marker, cursor.advance marker⟩
        | none =>
            match ← (parsing.skipping aether).trySkip inner cursor with
            | some (skipped, after) => inner frame candidates (pending ++ skipped) after
            | none =>
                match rejected with
                | some error => throw error
                | none => throw (parsing.errorAt cursor)

theorem body_succ (parsing : Parsing) (fuel : Nat) (frame : Frame) (candidates : List TermId) :
    parsing.body (fuel + 1) frame candidates =
      parsing.proceed (parsing.body fuel) candidates parsing.grammar.aether frame candidates := rfl

/-! ### The cursor moves on -/

theorem lt_of_takes (advances : inner.Advances) (found : term.start.matchAt? cursor = some marker)
    (takes : parsing.Takes inner cursor term marker node after) : cursor.offset < after.offset := by
  have positive := Matcher.byteLength_pos_of_matchAt? found
  unfold Takes at takes
  split at takes
  · obtain ⟨_, rfl⟩ := takes
    simp only [Cursor.advance]
    omega
  · obtain ⟨closed, parsed, _, rfl⟩ := group_eq_ok_iff.1 takes
    have further := advances _ _ _ _ _ parsed
    simp only [Cursor.advance] at further
    omega

theorem lt_of_matched (advances : inner.Advances) {tried : List TermId}
    {rejected : Option ParseError}
    (matched : parsing.tryCandidates inner cursor tried rejected = .ok (.matched term node after)) :
    cursor.offset < after.offset := by
  obtain ⟨_, _, _, found, takes⟩ := takes_of_tryCandidates matched
  exact lt_of_takes advances found takes

theorem lt_of_skipped (advances : inner.Advances) {skipped : Text}
    (skips : parsing.trySkip inner cursor = .ok (some (skipped, after))) :
    cursor.offset < after.offset := by
  obtain ⟨_, _, _, _, found, takes, _⟩ := trySkip_eq_some_iff.1 skips
  exact lt_of_takes advances found takes

theorem body_advances (parsing : Parsing) (fuel : Nat) : (parsing.body fuel).Advances := by
  induction fuel with
  | zero =>
      intro frame candidates pending cursor closed done
      cases done
  | succ fuel ih =>
      intro frame candidates pending cursor closed done
      cases body_succ_eq_ok_iff.1 done with
      | ends _ _ => exact Nat.le_refl _
      | child _ matched continues =>
          have further := ih _ _ _ _ _ continues
          exact Nat.le_trans (Nat.le_of_lt (lt_of_matched ih matched)) further
      | closes _ _ _ _ => exact Nat.le_add_right _ _
      | skips _ _ _ skipping continues =>
          exact Nat.le_trans (Nat.le_of_lt (lt_of_skipped ih skipping)) (ih _ _ _ _ _ continues)

/-! ### Only what lies behind the cursor counts -/

section

variable (agree : inner.AgreeBeyond other cursor.offset)
include agree

theorem group_congr (found : term.start.matchAt? cursor = some marker) (name : String)
    (stop : Matcher) (subgroups : List TermId) :
    parsing.group inner name marker stop subgroups cursor =
      parsing.group other name marker stop subgroups cursor := by
  have positive := Matcher.byteLength_pos_of_matchAt? found
  rw [group, group, agree _ _ _ _ (by simp only [Cursor.advance]; omega)]

theorem tryCandidates_congr (tried : List TermId) (rejected : Option ParseError) :
    parsing.tryCandidates inner cursor tried rejected =
      parsing.tryCandidates other cursor tried rejected := by
  induction tried generalizing rejected with
  | nil => rfl
  | cons id ids ih =>
      rw [tryCandidates, tryCandidates]
      cases parsing.grammar.term? id with
      | none => exact ih rejected
      | some term =>
          cases found : term.start.matchAt? cursor with
          | none => simpa only [found] using ih rejected
          | some marker => simp only [found, group_congr agree found, ih]

theorem trySkip_congr : parsing.trySkip inner cursor = parsing.trySkip other cursor := by
  rw [trySkip, trySkip]
  cases parsing.grammar.aether.bind parsing.grammar.term? with
  | none => rfl
  | some term =>
      cases found : term.start.matchAt? cursor with
      | none => simp only [found]
      | some marker => simp only [found, group_congr agree found]

theorem proceed_congr (advances : other.Advances) (tried : List TermId) (aether : Option TermId)
    (frame : Frame) (candidates : List TermId) (pending : Text) :
    parsing.proceed inner tried aether frame candidates pending cursor =
      parsing.proceed other tried aether frame candidates pending cursor := by
  rw [proceed, proceed, tryCandidates_congr agree, trySkip_congr agree]
  split
  · rfl
  · cases tried : parsing.tryCandidates other cursor tried none with
    | error _ => rfl
    | ok attempt =>
        cases attempt with
        | matched term node after =>
            simp only [bind, Except.bind]
            rw [agree _ _ _ _ (lt_of_matched advances tried)]
        | unmatched rejected =>
            simp only [bind, Except.bind]
            cases skips : (parsing.skipping aether).trySkip other cursor with
            | error _ => rfl
            | ok skip =>
                cases skip with
                | none => rfl
                | some skip =>
                    simp only
                    rw [agree _ _ _ _ (lt_of_skipped advances skips)]

end

/-! ### Without fuel -/

/-- Any fuel that exceeds what is left of the text will do. -/
theorem body_eq_of_lt {fuel more : Nat} {frame : Frame} {candidates : List TermId} {pending : Text}
    (enough : parsing.size - cursor.offset < fuel) (enoughToo : parsing.size - cursor.offset < more) :
    parsing.body fuel frame candidates pending cursor =
      parsing.body more frame candidates pending cursor := by
  -- A round goes on behind the cursor only, where less is left and less fuel will do.
  induction fuel generalizing more frame candidates pending cursor with
  | zero => exact absurd enough (Nat.not_lt_zero _)
  | succ fuel ih =>
      obtain ⟨more, rfl⟩ := Nat.exists_eq_add_one_of_ne_zero (Nat.ne_zero_of_lt enoughToo)
      rw [body_succ, body_succ]
      by_cases atEnd : parsing.size ≤ cursor.offset
      · rw [proceed, proceed, if_pos atEnd, if_pos atEnd]
      · refine proceed_congr ?_ (parsing.body_advances more) _ _ _ _ _
        intro frame candidates pending further beyond
        exact ih (by omega) (by omega)

/-- Parses what is left of a group. -/
def inside (parsing : Parsing) : GroupBody := parsing.body (parsing.size + 1)

theorem inside_advances (parsing : Parsing) : parsing.inside.Advances := parsing.body_advances _

theorem body_eq_inside {fuel : Nat} (enough : parsing.size - cursor.offset < fuel) (frame : Frame)
    (candidates : List TermId) (pending : Text) :
    parsing.body fuel frame candidates pending cursor =
      parsing.inside frame candidates pending cursor :=
  body_eq_of_lt enough (Nat.lt_succ_of_le (Nat.sub_le _ _))

/-- What is left of a group is parsed in one round and, behind it, in the same way. -/
theorem inside_eq (parsing : Parsing) (frame : Frame) (candidates : List TermId) (pending : Text)
    (cursor : Cursor) : parsing.inside frame candidates pending cursor =
      parsing.proceed parsing.inside candidates parsing.grammar.aether frame candidates pending
        cursor := by
  rw [← body_eq_inside (Nat.lt_add_one_of_lt (Nat.lt_succ_of_le (Nat.sub_le _ _))) frame, body_succ]
  rfl

theorem inside_eq_ok_iff {frame : Frame} {candidates : List TermId} {pending : Text}
    {closed : Closed} :
    parsing.inside frame candidates pending cursor = .ok closed ↔
      Round parsing parsing.inside frame candidates pending cursor closed := by
  have more : parsing.body (parsing.size + 1 + 1) frame candidates pending cursor =
      parsing.inside frame candidates pending cursor :=
    body_eq_inside (Nat.lt_add_one_of_lt (Nat.lt_succ_of_le (Nat.sub_le _ _))) _ _ _
  rw [← more, body_succ_eq_ok_iff]
  exact Iff.rfl

end Parsing

end Parlance
