/-!
# Outcomes

What follows from the success of a computation that can fail, taken apart along its steps. `Yields`
is a postcondition on both outcomes: it says what the result is like if there is one, and what the
error is like if there is none.
-/

namespace Parlance

section

variable {α β ε : Type} {result : β}

theorem bind_eq_ok_iff {first : Except ε α} {next : α → Except ε β} :
    first >>= next = .ok result ↔ ∃ value, first = .ok value ∧ next value = .ok result := by
  cases first <;> simp [bind, Except.bind]

theorem map_eq_ok_iff {first : Except ε α} {change : α → β} :
    first.map change = .ok result ↔ ∃ value, first = .ok value ∧ change value = result := by
  cases first <;> simp [Except.map]

theorem map_eq_error_iff {fault : ε} {first : Except ε α} {change : α → β} :
    first.map change = .error fault ↔ first = .error fault := by
  cases first <;> simp [Except.map]

/-- A change of the last result commutes with a change of the one before it. -/
theorem map_bind_eq {α' β' : Type} {first : Except ε α} {next : α → Except ε β}
    {nextToo : α' → Except ε β'} {change : α → α'} {changeToo : β → β'}
    (commutes : ∀ value, (next value).map changeToo = nextToo (change value)) :
    (first >>= next).map changeToo = first.map change >>= nextToo := by
  cases first with
  | error _ => rfl
  | ok value => exact commutes value

/-- What every step of a fold keeps, a fold that succeeds keeps. -/
theorem foldlM_keeps (holds : α → Prop) {step : α → β → Except ε α} {items : List β}
    (keeps : ∀ item ∈ items, ∀ former latter, holds former → step former item = .ok latter →
      holds latter) {start last : α} (holdsStart : holds start)
    (done : items.foldlM step start = .ok last) : holds last := by
  induction items generalizing start with
  | nil =>
      cases done
      exact holdsStart
  | cons item rest ih =>
      rw [List.foldlM_cons] at done
      obtain ⟨middle, first, behind⟩ := bind_eq_ok_iff.1 done
      have holdsMiddle := keeps item (by simp) start middle holdsStart first
      exact ih (fun other member => keeps other (by simp [member])) holdsMiddle behind

theorem toOption_eq_some_iff {outcome : Except ε β} :
    outcome.toOption = some result ↔ outcome = .ok result := by
  cases outcome <;> simp [Except.toOption]

end

/-- If the computation succeeds, its result is one of these; if it fails, its error is one of
those. -/
def Yields {α ε : Type} (outcome : Except ε α) (holds : α → Prop) (warrants : ε → Prop) : Prop :=
  match outcome with
  | .ok value => holds value
  | .error fault => warrants fault

namespace Yields

variable {α β ε : Type} {holds weaker : α → Prop} {after : β → Prop} {warrants looser : ε → Prop}

theorem of_ok {outcome : Except ε α} {value : α} (yields : Yields outcome holds warrants)
    (done : outcome = .ok value) : holds value := by
  rwa [done] at yields

theorem mono {outcome : Except ε α} (yields : Yields outcome holds warrants)
    (weakens : ∀ value, holds value → weaker value) : Yields outcome weaker warrants := by
  cases outcome with
  | ok value => exact weakens value yields
  | error fault => exact yields

theorem loosen {outcome : Except ε α} (yields : Yields outcome holds warrants)
    (loosens : ∀ fault, warrants fault → looser fault) : Yields outcome holds looser := by
  cases outcome with
  | ok value => exact yields
  | error fault => exact loosens fault yields

theorem bind {first : Except ε α} {next : α → Except ε β} (former : Yields first holds warrants)
    (latter : ∀ value, holds value → Yields (next value) after warrants) :
    Yields (first >>= next) after warrants := by
  cases first with
  | ok value => exact latter value former
  | error fault => exact former

theorem map {change : α → β} {outcome : Except ε α}
    (yields : Yields outcome (fun value => after (change value)) warrants) :
    Yields (change <$> outcome) after warrants := by
  cases outcome <;> exact yields

end Yields

end Parlance
