import Parlance.Proofs.Arithmetic.Literal
import Parlance.Proofs.Arithmetic.Span
import Parlance.Proofs.Number.Coercion
import Parlance.Value.Coercion

/-!
# Spellings of numbers

A number can be met as a token of a source, as a text that is taken for a number, and as what is
written for it. All three agree: a number token that is read is a numeral, and texts are taken for the
numbers that numerals are read as.
-/

namespace Parlance.Arithmetic

open Numeral

variable {node : Node} {value : Float}

/-- A number token that is read is taken for the same number as a text. -/
theorem toNumber_textOf (matched : grammar.Matched node) (named : node.name = "number")
    (reads : readNumber? (textOf node) = some value) (heap : Heap) :
    (Value.string (String.ofList (textOf node))).toNumber heap = value := by
  obtain ⟨pattern, shape, spells⟩ := exists_spells matched number_shaped (by rw [named]; decide)
  have isNumeral := isUnsignedNumeral_of_spells shape spells (isPlain_of_readNumber? reads)
  rw [Value.toNumber, String.toList_ofList, isNumeral.coerce_eq, reads]
  rfl

/-- A number literal is made from a number token. -/
theorem Atom.reads_number {origin : Origin} (isToken : node.isToken = true)
    (atom : Atom node (.literal origin (.number value))) :
    node.IsTokenOf "number" ∧ readNumber? (textOf node) = some value := by
  generalize isLiteral : Expr.literal origin (.number value) = made at atom
  cases atom with
  | number named reads =>
      cases isLiteral
      exact ⟨named, reads⟩
  | string => cases isLiteral
  | identifier => cases isLiteral
  | paren named =>
      rw [named.1] at isToken
      cases isToken

/-- A number token that is read and a number literal that is made from it are taken for the same
number as the text that stands there. What is written for a number is taken for it again, and either
zero for zero. -/
theorem spellings_agree :
    (∀ options source tree node value, grammar.parse options source = .ok tree →
      tree.Contains node → node.IsTokenOf "number" → readNumber? (textOf node) = some value →
      ∀ heap, (Value.string (String.ofList (textOf node))).toNumber heap = value) ∧
    (∀ source made origin value, compile source = .ok made →
      made.Contains (.literal origin (.number value)) →
      ∃ text, source.between? origin.position origin.stop = some text ∧
        ∀ heap, (Value.string (String.ofList text)).toNumber heap = value) ∧
    ∀ number heap, (Value.string (Numeral.write number)).toNumber heap =
      if number == 0 then 0 else number := by
  have tokens : ∀ {options source tree node value}, grammar.parse options source = .ok tree →
      tree.Contains node → node.IsTokenOf "number" → readNumber? (textOf node) = some value →
      ∀ heap, (Value.string (String.ofList (textOf node))).toNumber heap = value :=
    fun parsed contains named => toNumber_textOf
      (Grammar.parse_matchesTokens parsed _ contains named.1) named.2
  refine ⟨fun _ _ _ _ _ => tokens, ?_, fun number _ => coerce_write number⟩
  intro source made origin value compiled contains
  obtain ⟨tree, parsed, nests⟩ := nestsIn_of_compile compiled
  obtain ⟨token, within, isToken, atom, sameOrigin, found⟩ := (nests _ contains).token rfl
  obtain ⟨named, reads⟩ := atom.reads_number isToken
  exact ⟨_, found, tokens parsed within named reads⟩

/-- The origin and the value of a number literal. -/
def Expr.number? : Expr → Option (Origin × Float)
  | .literal origin (.number value) => some (origin, value)
  | _ => none

theorem Expr.eq_literal_of_number? {expr : Expr} {origin : Origin}
    (isNumber : Expr.number? expr = some (origin, value)) :
    expr = .literal origin (.number value) := by
  unfold Expr.number? at isNumber
  split at isNumber
  · cases isNumber
    rfl
  · cases isNumber

/-- A hexadecimal token of a sum, a literal with an exponent, and a written number with a sign. -/
theorem spellings_agree_hexadecimal :
    (∃ tree node, grammar.parse .plain "0x1F + 1".toList = .ok tree ∧ tree.Contains node ∧
      textOf node = "0x1F".toList ∧
      ∀ heap, (Value.string (String.ofList (textOf node))).toNumber heap = 31) ∧
    (∃ made, compile "1.5e3".toList = .ok made ∧
      made.Contains (.literal ⟨"number", 0, 5⟩ (.number 1500)) ∧
      ∃ text, Text.between? "1.5e3".toList 0 5 = some text ∧
        ∀ heap, (Value.string (String.ofList text)).toNumber heap = 1500) ∧
    ∀ heap, (Value.string (Numeral.write (-1.5))).toNumber heap =
      if (-1.5 : Float) == 0 then 0 else -1.5 := by
  refine ⟨?_, ?_, spellings_agree.2.2 (-1.5)⟩
  · have found : ((grammar.parse .plain "0x1F + 1".toList).toOption.bind fun tree =>
        tree.children.find? fun node => node.isToken && node.name == "number" &&
          decide (textOf node = "0x1F".toList) &&
          decide (readNumber? (textOf node) = some 31)).isSome = true := by
      decide +kernel
    obtain ⟨node, found⟩ := Option.isSome_iff_exists.1 found
    obtain ⟨tree, parsed, found⟩ := Option.bind_eq_some_iff.1 found
    have parsed := toOption_eq_some_iff.1 parsed
    have contains : tree.Contains node := .child .self (List.mem_of_find?_eq_some found)
    have named := List.find?_some found
    simp only [Bool.and_eq_true, beq_iff_eq, decide_eq_true_eq] at named
    obtain ⟨⟨⟨isToken, named⟩, spelled⟩, reads⟩ := named
    exact ⟨tree, node, parsed, contains, spelled,
      spellings_agree.1 _ _ _ _ _ parsed contains ⟨isToken, named⟩ reads⟩
  · have succeeds : (compile "1.5e3".toList).toOption.bind Expr.number? =
        some (⟨"number", 0, 5⟩, 1500) := by
      decide +kernel
    obtain ⟨made, compiled, isNumber⟩ := Option.bind_eq_some_iff.1 succeeds
    have compiled := toOption_eq_some_iff.1 compiled
    cases Expr.eq_literal_of_number? isNumber
    exact ⟨_, compiled, .self, spellings_agree.2.1 _ _ _ _ compiled .self⟩

end Parlance.Arithmetic
