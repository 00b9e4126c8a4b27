import Mathlib.Logic.Relation
import Parlance.Evaluation.Meaning
import Parlance.Proofs.Arithmetic.Enclosing
import Parlance.Proofs.Arithmetic.Rereading

/-!
# Transparent wrappers

Wrappers around anything but comma lists change nothing about an expression, wherever they stand: not
its values and errors, nor the calls and changes that come with them, nor whether it can be assigned
through, nor its canonical text. So parentheses around a source change nothing either, unless it is a
comma list.
-/

namespace Parlance

namespace Expr

variable {expr other : Expr}

/-! ### Wrappers around parts -/

/-- The latter expression is the former one with one more wrapper around a part that is no comma
list. -/
inductive Wraps : Expr → Expr → Prop where
  | here {inner} (origin) (single : inner.isSequence = false) : Wraps inner (wrapper origin inner)
  | member {origin object wrapped property} (inside : Wraps object wrapped) :
      Wraps (member origin object property) (member origin wrapped property)
  | object {origin object wrapped key} (inside : Wraps object wrapped) :
      Wraps (index origin object key) (index origin wrapped key)
  | key {origin object key wrapped} (inside : Wraps key wrapped) :
      Wraps (index origin object key) (index origin object wrapped)
  | callee {origin callee wrapped arguments} (inside : Wraps callee wrapped) :
      Wraps (call origin callee arguments) (call origin wrapped arguments)
  | arguments {origin callee arguments wrapped} (inside : Wraps arguments wrapped) :
      Wraps (call origin callee arguments) (call origin callee wrapped)
  | callEmpty {origin callee wrapped} (inside : Wraps callee wrapped) :
      Wraps (callEmpty origin callee) (callEmpty origin wrapped)
  | unary {origin operator operand wrapped} (inside : Wraps operand wrapped) :
      Wraps (unary origin operator operand) (unary origin operator wrapped)
  | stepAfter {origin step operand wrapped} (inside : Wraps operand wrapped) :
      Wraps (stepAfter origin step operand) (stepAfter origin step wrapped)
  | left {origin operator left wrapped right} (inside : Wraps left wrapped) :
      Wraps (binary origin operator left right) (binary origin operator wrapped right)
  | right {origin operator left right wrapped} (inside : Wraps right wrapped) :
      Wraps (binary origin operator left right) (binary origin operator left wrapped)
  | condition {origin condition wrapped truthy falsy} (inside : Wraps condition wrapped) :
      Wraps (ternary origin condition truthy falsy) (ternary origin wrapped truthy falsy)
  | truthy {origin condition truthy wrapped falsy} (inside : Wraps truthy wrapped) :
      Wraps (ternary origin condition truthy falsy) (ternary origin condition wrapped falsy)
  | falsy {origin condition truthy falsy wrapped} (inside : Wraps falsy wrapped) :
      Wraps (ternary origin condition truthy falsy) (ternary origin condition truthy wrapped)
  | wrapper {origin inner wrapped} (inside : Wraps inner wrapped) :
      Wraps (wrapper origin inner) (wrapper origin wrapped)

/-- The expressions are made from one another by adding wrappers around parts that are no comma lists
and by taking such wrappers away. -/
def Rewrapped : Expr → Expr → Prop := Relation.EqvGen Wraps

/-- A wrapper makes no comma list and unmakes none but the one it stands around. -/
theorem Wraps.isSequence_eq (wraps : Wraps expr other) : expr.isSequence = other.isSequence := by
  cases wraps with
  | here _ single => exact single
  | left => rename_i operator _ _ _ _; cases operator <;> rfl
  | right => rename_i operator _ _ _ _; cases operator <;> rfl
  | _ => rfl

/-- Wrappers around parts that are no comma lists leave no trace. -/
theorem Wraps.plain_eq (wraps : Wraps expr other) : expr.plain = other.plain := by
  induction wraps with
  | here _ single => simp [plain, single]
  | wrapper inside ih => simp only [plain, inside.isSequence_eq, ih]
  | _ => simp_all only [plain]

theorem Rewrapped.plain_eq (rewrapped : Rewrapped expr other) : expr.plain = other.plain := by
  induction rewrapped with
  | rel _ _ wraps => exact wraps.plain_eq
  | refl _ => rfl
  | symm _ _ _ ih => exact ih.symm
  | trans _ _ _ _ _ first second => exact first.trans second

/-! ### What wrappers leave alone -/

variable (host : Host) (context : Context)

/-- What is no comma list is one argument. -/
theorem arguments_of_single (single : expr.isSequence = false) :
    (expr.meaning host context).arguments = return [← (expr.meaning host context).value] := by
  cases expr with
  | literal _ value => cases value <;> rfl
  | binary _ operator _ _ =>
      cases operator with
      | comma => cases single
      | _ => rfl
  | _ => rfl

/-- All uses of an expression are those of what is left without origins and traceless wrappers. -/
theorem meaning_plain (expr : Expr) : expr.plain.meaning host context = expr.meaning host context := by
  induction expr with
  | wrapper origin inner ih =>
      rw [plain]
      split
      · rw [meaning, meaning, ih]
      · rename_i single
        rw [ih, meaning, ← arguments_of_single host context (by simpa using single)]
  | literal _ value => cases value <;> rfl
  | _ => simp_all only [plain, meaning, canonical_plain]

theorem isAssignable_plain (expr : Expr) : expr.plain.isAssignable = expr.isAssignable := by
  induction expr with
  | wrapper origin inner ih =>
      rw [plain]
      split <;> exact ih
  | _ => rfl

/-- The latter expression can be used in place of the former one: on every machine it comes to the same
value or error, the same calls and the same machine, and it has the same text. -/
structure BehavesLike (expr other : Expr) : Prop where
  evaluate : ∀ host context, expr.evaluate host context = other.evaluate host context
  assign : ∀ host context value, expr.assign host context value = other.assign host context value
  evaluateList : ∀ host context, expr.evaluateList host context = other.evaluateList host context
  isAssignable : expr.isAssignable = other.isAssignable
  canonical : expr.canonical = other.canonical

theorem BehavesLike.of_plain_eq (same : expr.plain = other.plain) : expr.BehavesLike other := by
  have meanings : ∀ host context, expr.meaning host context = other.meaning host context := by
    intro host context
    rw [← meaning_plain, same, meaning_plain]
  exact {
    evaluate := fun host context => congrArg Meaning.value (meanings host context)
    assign := fun host context value =>
      congrFun (congrArg Meaning.assign (meanings host context)) value
    evaluateList := fun host context => congrArg Meaning.arguments (meanings host context)
    isAssignable := by rw [← isAssignable_plain, same, isAssignable_plain]
    canonical := by rw [← canonical_plain, same, canonical_plain] }

end Expr

namespace Arithmetic

/-- Expressions behave alike if only wrappers around parts that are no comma lists tell them apart, and
a source that compiles to anything but a comma list behaves alike in parentheses. -/
theorem wrappers_transparent :
    (∀ expr other : Expr, expr.Rewrapped other → expr.BehavesLike other) ∧
    ∀ source expr, compile source = .ok expr → expr.isSequence = false →
      ∃ other, compile ('(' :: source ++ [')']) = .ok other ∧ expr.BehavesLike other := by
  refine ⟨fun expr other rewrapped => .of_plain_eq rewrapped.plain_eq, ?_⟩
  intro source expr compiled single
  obtain ⟨other, origin, compiledToo, alike⟩ := compile_parenthesized compiled
  refine ⟨_, compiledToo, .of_plain_eq ?_⟩
  have singleToo : other.isSequence = false := by
    rw [← Expr.isSequence_bare, ← alike, Expr.isSequence_bare, single]
  rw [Expr.plain_wrap, if_neg (by simp [singleToo]), ← Expr.plain_bare, alike, Expr.plain_bare]

/-- A method call with a wrapper around the callee and the same one with a wrapper around the object,
and the source of a method call in parentheses. -/
theorem wrappers_transparent_method :
    (let symbol := Expr.symbol .nowhere "list"
      let wrapped := Expr.callEmpty .nowhere (.wrapper .nowhere (.member .nowhere symbol "pop"))
      let other := Expr.callEmpty .nowhere (.member .nowhere (.wrapper .nowhere symbol) "pop")
      wrapped.Rewrapped other ∧ wrapped.BehavesLike other) ∧
    ∃ expr other, compile "list.push(a, b)".toList = .ok expr ∧ expr.isSequence = false ∧
      compile "(list.push(a, b))".toList = .ok other ∧ expr.BehavesLike other := by
  obtain ⟨rewrapping, parentheses⟩ := wrappers_transparent
  constructor
  · intro symbol wrapped other
    have less : Expr.Wraps (.callEmpty .nowhere (.member .nowhere symbol "pop")) wrapped :=
      .callEmpty (.here .nowhere rfl)
    have more : Expr.Wraps (.callEmpty .nowhere (.member .nowhere symbol "pop")) other :=
      .callEmpty (.member (.here .nowhere rfl))
    have rewrapped : wrapped.Rewrapped other := .trans _ _ _ (.symm _ _ (.rel _ _ less)) (.rel _ _ more)
    exact ⟨rewrapped, rewrapping wrapped other rewrapped⟩
  · have checked : ((compile "list.push(a, b)".toList).toOption.any (!·.isSequence)) = true := by
      decide +kernel
    obtain ⟨expr, compiled, single⟩ := (Option.any_eq_true ..).1 checked
    rw [toOption_eq_some_iff] at compiled
    rw [Bool.not_eq_true'] at single
    obtain ⟨other, compiledToo, alike⟩ := parentheses _ _ compiled single
    exact ⟨expr, other, compiled, single, compiledToo, alike⟩

end Arithmetic

end Parlance
