/-!
# Stretches of code points

Unicode data is given as stretches: evenly spaced code points from a first to a last one. A table
lists its stretches by their first code points, so a search ends at the first stretch that starts
beyond the character sought.

Large tables are written as text. A token `41-5A` is a run, `100-12E/2` is every second code point
of a run, and `AA` is a single code point.
-/

namespace Parlance.Unicode

/-- The code points `first`, `first + step`, and so on up to `last`. -/
structure Stretch where
  first : Nat
  last : Nat
  step : Nat
  deriving Repr, DecidableEq

namespace Stretch

/-- Whether the code point lies on the stretch. -/
def holds (stretch : Stretch) (point : Nat) : Bool :=
  decide (stretch.first ≤ point) && decide (point ≤ stretch.last) &&
    (point - stretch.first) % stretch.step == 0

/-- The value of a hexadecimal digit in upper case; other characters count as zero. -/
def digitValue (digit : Char) : Nat :=
  if '0' ≤ digit ∧ digit ≤ '9' then digit.toNat - '0'.toNat
  else if 'A' ≤ digit ∧ digit ≤ 'F' then digit.toNat - 'A'.toNat + 10
  else 0

/-- The number that a hexadecimal numeral writes. -/
def numeral (digits : String) : Nat :=
  digits.toList.foldl (fun total digit => 16 * total + digitValue digit) 0

/-- The tokens of a written table, which blanks separate. -/
def tokens (text : String) : List String :=
  (text.splitToList Char.isWhitespace).filter fun token => !token.isEmpty

/-- The stretch that a token of a written table stands for. -/
def ofToken (token : String) : Stretch :=
  let (run, step) := match token.splitOn "/" with
    | [run, step] => (run, numeral step)
    | _ => (token, 1)
  match run.splitOn "-" with
  | [first, last] => ⟨numeral first, numeral last, step⟩
  | _ => ⟨numeral run, numeral run, step⟩

/-- The stretches of a written table, in the order of the text. -/
def ofText (text : String) : List Stretch :=
  (tokens text).map ofToken

end Stretch

/-- Whether a table, sorted by first code points, holds the code point. -/
def listed : List Stretch → Nat → Bool
  | [], _ => false
  | stretch :: rest, point =>
      if point < stretch.first then false else stretch.holds point || listed rest point

end Parlance.Unicode
