import Parlance.Proofs.Arithmetic.Compiled
import Parlance.Proofs.Arithmetic.Rereading
import Parlance.Proofs.Tree.Acceptance

/-!
# Canonical texts compile again

The canonical text of a compiled expression compiles to the same expression, up to origins and
wrappers that leave no trace, and so it is its own canonical text. What stands in the way is a member
of a whole number: its dot is read as the point of the number.
-/

namespace Parlance

namespace Arithmetic

variable {expr made : Expr} {source : Text}

/-- The canonical text of a printable expression compiles to what it shows of the expression. -/
theorem compile_canonical (printable : expr.Printable) (apart : expr.every Expr.keepsPoint = true) :
    ∃ again, compile expr.canonical = .ok again ∧ again.plain = expr.named.plain := by
  have atEnd : Delimited [] := by simp [Delimited]
  have noPoint : '.' ∈ ([] : Text).head? → expr.isWholeNumber = false ∧ expr.isSequence = false := by
    simp
  have noStop : EndsAtNoBlank none := by simp [EndsAtNoBlank]
  obtain ⟨nodes, there, ⟨derived, sequence, _, same⟩, reaches⟩ :=
    leads_of_printable printable apart [] atEnd noPoint none noStop [] [] .nothing
  have fills := reaches.fills (.ends .nothing)
  rw [List.nil_append, List.append_nil, List.append_nil, ← grammar_outlined.2.1] at fills
  let tree : Node := .assembled false grammar.rootName [] [] nodes [] []
  have described : grammar.Describes .plain expr.canonical tree := ⟨nodes, [], fills, rfl⟩
  have sequence : IsSequence Gives tree.children derived := sequence
  obtain ⟨again, compiled, rfl⟩ := sequence.gives
  refine ⟨again, ?_, by rw [← same, Expr.plain_bare]⟩
  rw [compile, described.parse rfl]
  exact compiled

/-- Without members of whole numbers, the canonical text of what compiles is a fixed point: it
compiles again, to an expression with the same canonical text. -/
theorem canonical_fixed (compiled : compile source = .ok made)
    (apart : made.every Expr.keepsPoint = true) :
    ∃ again, compile made.canonical = .ok again ∧ again.canonical = made.canonical := by
  obtain ⟨again, compiledAgain, same⟩ := compile_canonical (printable_of_compile compiled) apart
  refine ⟨again, compiledAgain, ?_⟩
  rw [← Expr.canonical_plain again, same, Expr.canonical_plain, Expr.canonical_named]

/-- An infinite literal and a fraction have members. -/
theorem canonical_fixed_infinity : ∃ made again,
    compile "1e400 .k(-(2.50).m, 'say \"hi\"')[i, (j)]++".toList = .ok made ∧
      made.canonical = "(Infinity.k((-2.5.m), \"say \\\"hi\\\"\")[i, j]++)".toList ∧
      compile made.canonical = .ok again ∧ again.canonical = made.canonical := by
  have checked : ((compile "1e400 .k(-(2.50).m, 'say \"hi\"')[i, (j)]++".toList).toOption.any
      fun made => made.every Expr.keepsPoint && decide (made.canonical =
        "(Infinity.k((-2.5.m), \"say \\\"hi\\\"\")[i, j]++)".toList)) = true := by
    decide +kernel
  obtain ⟨made, compiled, checked⟩ := (Option.any_eq_true ..).1 checked
  rw [toOption_eq_some_iff] at compiled
  rw [Bool.and_eq_true, decide_eq_true_eq] at checked
  obtain ⟨again, compiledAgain, same⟩ := canonical_fixed compiled checked.1
  exact ⟨made, again, compiled, checked.2, compiledAgain, same⟩

/-- The dot behind a whole number becomes its point: then the member is left without a dot, or is
taken for the number's exponent. -/
theorem not_canonical_fixed :
    (∃ made, compile "1 .a".toList = .ok made ∧ made.canonical = "1.a".toList ∧
      ∀ again, compile made.canonical ≠ .ok again) ∧
    ∃ made again, compile "1 .e3".toList = .ok made ∧ made.canonical = "1.e3".toList ∧
      compile made.canonical = .ok again ∧ again.canonical = "1000".toList := by
  have texts : (compile "1 .a".toList).toOption.map Expr.canonical = some "1.a".toList ∧
      (compile "1 .e3".toList).toOption.map Expr.canonical = some "1.e3".toList ∧
      (compile "1.a".toList).isOk = false ∧
      (compile "1.e3".toList).toOption.map Expr.canonical = some "1000".toList := by
    decide +kernel
  simp only [Option.map_eq_some_iff, toOption_eq_some_iff] at texts
  obtain ⟨⟨member, compiled, text⟩, ⟨late, compiledLate, textLate⟩, fails, again, reads, grown⟩ :=
    texts
  constructor
  · refine ⟨member, compiled, text, fun again compiledAgain => ?_⟩
    rw [text] at compiledAgain
    rw [compiledAgain] at fails
    cases fails
  · exact ⟨late, again, compiledLate, textLate, (congrArg compile textLate).trans reads, grown⟩

/-- Without infinite literals and members of whole numbers, the canonical text of what compiles
compiles to the same expression, up to origins and wrappers around anything but comma lists. -/
theorem canonical_decodes (compiled : compile source = .ok made)
    (finite : made.every Expr.isFinite = true) (apart : made.every Expr.keepsPoint = true) :
    ∃ again, compile made.canonical = .ok again ∧ again.plain = made.plain := by
  obtain ⟨again, compiledAgain, same⟩ := compile_canonical (printable_of_compile compiled) apart
  rw [Expr.named_of_isFinite finite] at same
  exact ⟨again, compiledAgain, same⟩

/-- A conditional, a hexadecimal number and a comma list in parentheses come back. -/
theorem canonical_decodes_conditional : ∃ made again,
    compile "x ? -0x1F : (2.50).m + f('\\'', (g, h))".toList = .ok made ∧
      made.canonical = "(x ? (-31) : (2.5.m + f(\"'\", (g, h))))".toList ∧
      compile made.canonical = .ok again ∧ again.plain = made.plain := by
  have checked : ((compile "x ? -0x1F : (2.50).m + f('\\'', (g, h))".toList).toOption.any
      fun made => made.every Expr.isFinite && made.every Expr.keepsPoint && decide (made.canonical =
        "(x ? (-31) : (2.5.m + f(\"'\", (g, h))))".toList)) = true := by
    decide +kernel
  obtain ⟨made, compiled, checked⟩ := (Option.any_eq_true ..).1 checked
  rw [toOption_eq_some_iff] at compiled
  rw [Bool.and_eq_true, Bool.and_eq_true, decide_eq_true_eq] at checked
  obtain ⟨again, compiledAgain, same⟩ := canonical_decodes compiled checked.1.1 checked.1.2
  exact ⟨made, again, compiled, checked.2, compiledAgain, same⟩

end Arithmetic

end Parlance
