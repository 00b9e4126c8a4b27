/-!
# Blank characters

The characters of the Unicode property `White_Space`. Patterns call them `\s`, and trimming a text
removes them from both ends. The zero-width space and the byte order mark are not among them.
-/

namespace Parlance.Unicode

/-- The runs of blank characters, each by its first and its last code point. -/
def blankRuns : List (Nat × Nat) :=
  [(0x0009, 0x000D), (0x0020, 0x0020), (0x0085, 0x0085), (0x00A0, 0x00A0), (0x1680, 0x1680),
   (0x2000, 0x200A), (0x2028, 0x2029), (0x202F, 0x202F), (0x205F, 0x205F), (0x3000, 0x3000)]

/-- Whether the character is blank. -/
def isBlank (char : Char) : Bool :=
  blankRuns.any fun run => decide (run.1 ≤ char.toNat) && decide (char.toNat ≤ run.2)

end Parlance.Unicode
