import Parlance.Proofs.Arithmetic.Token

/-!
# Canonical texts

What the canonical text of an expression shows of it and how it starts. Canonical texts show neither
origins nor wrappers around anything but comma lists, and they show an infinite literal as a name.
Expressions are printable if their parts stand where compiled expressions have them.
-/

namespace Parlance

namespace Expr

variable {expr : Expr}

/-! ### Parts -/

/-- Whether the expression and all its parts pass the test. -/
def every (test : Expr → Bool) : Expr → Bool
  | symbol origin name => test (symbol origin name)
  | literal origin value => test (literal origin value)
  | member origin object property => test (member origin object property) && object.every test
  | index origin object key => test (index origin object key) && object.every test && key.every test
  | call origin callee arguments =>
      test (call origin callee arguments) && callee.every test && arguments.every test
  | callEmpty origin callee => test (callEmpty origin callee) && callee.every test
  | unary origin operator operand => test (unary origin operator operand) && operand.every test
  | stepAfter origin step operand => test (stepAfter origin step operand) && operand.every test
  | binary origin operator left right =>
      test (binary origin operator left right) && left.every test && right.every test
  | ternary origin condition truthy falsy =>
      test (ternary origin condition truthy falsy) && condition.every test && truthy.every test &&
        falsy.every test
  | wrapper origin inner => test (wrapper origin inner) && inner.every test

/-- Whether the expression is no literal of an infinite number or of an undefined one. -/
def isFinite : Expr → Bool
  | literal _ (.number value) => Binary.isFinite value
  | _ => true

/-- Whether the expression is, inside its wrappers, the literal of a finite number whose text has no
point. -/
def isWholeNumber (expr : Expr) : Bool :=
  match expr.unwrapped with
  | literal _ (.number value) =>
      Binary.isFinite value && !(Numeral.write value).toList.contains '.'
  | _ => false

/-- Whether the expression is no member of such a number. The dot of the member would be read as the
point of the number. -/
def keepsPoint : Expr → Bool
  | member _ object _ => !object.isWholeNumber
  | _ => true

/-! ### What canonical texts show -/

/-- The expression without its origins and without the wrappers that leave no trace. -/
def plain : Expr → Expr
  | symbol _ name => symbol .nowhere name
  | literal _ value => literal .nowhere value
  | member _ object property => member .nowhere object.plain property
  | index _ object key => index .nowhere object.plain key.plain
  | call _ callee arguments => call .nowhere callee.plain arguments.plain
  | callEmpty _ callee => callEmpty .nowhere callee.plain
  | unary _ operator operand => unary .nowhere operator operand.plain
  | stepAfter _ step operand => stepAfter .nowhere step operand.plain
  | binary _ operator left right => binary .nowhere operator left.plain right.plain
  | ternary _ condition truthy falsy => ternary .nowhere condition.plain truthy.plain falsy.plain
  | wrapper _ inner => if inner.isSequence then wrapper .nowhere inner.plain else inner.plain

/-- The expression with the names of infinite numbers for their literals. -/
def named : Expr → Expr
  | symbol origin name => symbol origin name
  | literal origin (.number value) =>
      if Binary.isFinite value then literal origin (.number value)
      else symbol origin (Numeral.write value)
  | literal origin (.string text) => literal origin (.string text)
  | member origin object property => member origin object.named property
  | index origin object key => index origin object.named key.named
  | call origin callee arguments => call origin callee.named arguments.named
  | callEmpty origin callee => callEmpty origin callee.named
  | unary origin operator operand => unary origin operator operand.named
  | stepAfter origin step operand => stepAfter origin step operand.named
  | binary origin operator left right => binary origin operator left.named right.named
  | ternary origin condition truthy falsy =>
      ternary origin condition.named truthy.named falsy.named
  | wrapper origin inner => wrapper origin inner.named

@[simp] theorem isSequence_bare (expr : Expr) : expr.bare.isSequence = expr.isSequence := by
  cases expr with
  | binary origin operator left right => cases operator <;> rfl
  | _ => rfl

@[simp] theorem isSequence_plain (expr : Expr) : expr.plain.isSequence = expr.isSequence := by
  induction expr with
  | binary origin operator left right => cases operator <;> rfl
  | wrapper origin inner ih =>
      rw [plain]
      split
      · rfl
      · rw [ih]
        rename_i single
        simpa [isSequence] using single
  | _ => rfl

@[simp] theorem isSequence_named (expr : Expr) : expr.named.isSequence = expr.isSequence := by
  cases expr with
  | literal origin value =>
      cases value with
      | number value =>
          rw [named]
          split <;> rfl
      | string text => rfl
  | binary origin operator left right => cases operator <;> rfl
  | _ => rfl

@[simp] theorem plain_bare (expr : Expr) : expr.bare.plain = expr.plain := by
  induction expr <;> simp_all [bare, plain]

/-- Canonical texts show of an expression what is left without origins and traceless wrappers. -/
@[simp] theorem canonical_plain (expr : Expr) : expr.plain.canonical = expr.canonical := by
  induction expr with
  | binary origin operator left right ihLeft ihRight =>
      cases operator <;> simp [plain, canonical, ihLeft, ihRight]
  | wrapper origin inner ih =>
      rw [plain, canonical]
      split
      · rename_i sequence
        simp [canonical, sequence, ih]
      · exact ih
  | _ => simp_all [plain, canonical]

@[simp] theorem canonical_named (expr : Expr) : expr.named.canonical = expr.canonical := by
  induction expr with
  | literal origin value =>
      cases value with
      | number value =>
          rw [named]
          split <;> rfl
      | string text => rfl
  | binary origin operator left right ihLeft ihRight =>
      cases operator <;> simp [named, canonical, ihLeft, ihRight]
  | _ => simp_all [named, canonical]

theorem named_of_isFinite (finite : expr.every isFinite = true) : expr.named = expr := by
  induction expr with
  | literal origin value =>
      cases value with
      | number value =>
          have finite : Binary.isFinite value = true := finite
          simp [named, finite]
      | string text => rfl
  | _ => simp_all [named, every]

/-! ### Printable expressions -/

/-- The expression has names where names are due, its numbers carry no sign, and comma lists stand
only inside brackets or on the left of a comma. -/
def Printable : Expr → Prop
  | symbol _ name => Arithmetic.IsName name.toList
  | literal _ (.number value) => Binary.IsUnsigned value
  | literal _ (.string _) => True
  | member _ object property =>
      object.isSequence = false ∧ object.Printable ∧ Arithmetic.IsName property.toList
  | index _ object key => object.isSequence = false ∧ object.Printable ∧ key.Printable
  | call _ callee arguments => callee.isSequence = false ∧ callee.Printable ∧ arguments.Printable
  | callEmpty _ callee => callee.isSequence = false ∧ callee.Printable
  | unary _ _ operand => operand.isSequence = false ∧ operand.Printable
  | stepAfter _ _ operand => operand.isSequence = false ∧ operand.Printable
  | binary _ operator left right =>
      (operator ≠ .comma → left.isSequence = false) ∧ right.isSequence = false ∧
        left.Printable ∧ right.Printable
  | ternary _ condition truthy falsy =>
      (condition.isSequence = false ∧ truthy.isSequence = false ∧ falsy.isSequence = false) ∧
        condition.Printable ∧ truthy.Printable ∧ falsy.Printable
  | wrapper _ inner => inner.Printable

@[simp] theorem printable_bare (expr : Expr) : expr.bare.Printable ↔ expr.Printable := by
  induction expr with
  | literal origin value => cases value <;> rfl
  | _ => simp_all [bare, Printable]

/-- The characters with which values start. -/
def opensValue (char : Char) : Bool :=
  Arithmetic.startsName char || char.isDigit || char == '"' || char == '('

theorem exists_head_append {text : Text} (others : Text)
    (head : ∃ first behind, text = first :: behind ∧ opensValue first = true) :
    ∃ first behind, text ++ others = first :: behind ∧ opensValue first = true := by
  obtain ⟨first, behind, rfl, opens⟩ := head
  exact ⟨first, behind ++ others, rfl, opens⟩

/-- A canonical text starts with a letter, a digit, a quote or an opening parenthesis. -/
theorem Printable.exists_head (printable : expr.Printable) :
    ∃ first others, expr.canonical = first :: others ∧ opensValue first = true := by
  induction expr with
  | symbol origin name =>
      obtain ⟨first, others, text, starts, _⟩ := printable
      exact ⟨first, others, text, by simp [opensValue, starts]⟩
  | literal origin value =>
      cases value with
      | number value =>
          rw [canonical, Constant.canonical]
          by_cases finite : Binary.isFinite value = true
          · obtain ⟨first, others, text, digit⟩ :=
              (Numeral.isNumeral_write finite printable).exists_digit
            exact ⟨first, others, text, by simp [opensValue, digit]⟩
          · rw [Numeral.write_of_infinite (Bool.eq_false_iff.2 finite) printable]
            exact ⟨'I', "nfinity".toList, rfl, rfl⟩
      | string text => exact ⟨'"', _, rfl, rfl⟩
  | member origin object property ih => exact exists_head_append _ (ih printable.2.1)
  | index origin object key ih =>
      exact exists_head_append _ (exists_head_append _ (ih printable.2.1))
  | call origin callee arguments ih =>
      exact exists_head_append _ (exists_head_append _ (ih printable.2.1))
  | callEmpty origin callee ih => exact exists_head_append _ (ih printable.2)
  | unary => exact ⟨'(', _, rfl, rfl⟩
  | stepAfter => exact ⟨'(', _, rfl, rfl⟩
  | binary origin operator left right ih =>
      cases operator with
      | comma => exact exists_head_append _ (ih printable.2.2.1)
      | _ => exact ⟨'(', _, rfl, rfl⟩
  | ternary => exact ⟨'(', _, rfl, rfl⟩
  | wrapper origin inner ih =>
      rw [canonical]
      split
      · exact ⟨'(', _, rfl, rfl⟩
      · exact ih printable

end Expr

end Parlance
