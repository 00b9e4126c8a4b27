import Parlance.Number.Shortest
import Parlance.Text.Search

/-!
# Numerals

How numbers are written and read as text. Written numbers are never in exponent notation and whole
ones have no fraction. Read numbers may have an exponent, and may be hexadecimal whole numbers.
-/

namespace Parlance.Numeral

/-- The number as text. Both zeros are written alike. -/
def write (number : Float) : String :=
  if number.isNaN then "NaN"
  else if !Binary.isFinite number then
    if Binary.isNegative number then "-Infinity" else "Infinity"
  else
    let binary := Binary.ofFloat number
    if binary.significand = 0 then "0"
    else
      let text := (Decimal.shortest binary).positional
      String.ofList (if binary.negative then '-' :: text else text)

/-- The digits at the start of a text and what follows them. -/
def spanDigits (text : Text) : Text × Text :=
  (text.takeWhile Char.isDigit, text.dropWhile Char.isDigit)

/-- The whole number that decimal digits write. -/
def digitsValue (digits : Text) : Nat :=
  digits.foldl (fun total digit => 10 * total + (digit.toNat - '0'.toNat)) 0

/-- A sign at the start of a text, true for a minus, and what follows it. -/
def splitSign : Text → Bool × Text
  | '-' :: rest => (true, rest)
  | '+' :: rest => (false, rest)
  | text => (false, text)

/-- Reads an exponent, which may be missing, up to the end of the text. -/
def readExponent? : Text → Option Int
  | [] => some 0
  | mark :: rest =>
      if mark = 'e' ∨ mark = 'E' then
        let (negative, rest) := splitSign rest
        let (digits, rest) := spanDigits rest
        if digits.isEmpty || !rest.isEmpty then none
        else
          let value := digitsValue digits
          some (if negative then -(value : Int) else value)
      else none

/-- Reads digits, which may have a point before, behind or between them, and an exponent. -/
def readUnsigned? (text : Text) : Option Float :=
  let (whole, rest) := spanDigits text
  let (fraction, rest) := match rest with
    | '.' :: rest => spanDigits rest
    | rest => ([], rest)
  if whole.isEmpty && fraction.isEmpty then none
  else
    (readExponent? rest).map fun exponent =>
      Decimal.toFloat ⟨digitsValue (whole ++ fraction), exponent - fraction.length⟩

/-- Gives a number that was read without its sign the sign. -/
def signed (negative : Bool) (number : Float) : Float :=
  if negative then -number else number

/-- Reads a decimal numeral with or without a sign. -/
def readDecimal? (text : Text) : Option Float :=
  let (negative, rest) := splitSign text
  (readUnsigned? rest).map (signed negative)

/-- Reads a decimal numeral, or the name of infinity or of an undefined result in any case. -/
def readNamedOrDecimal? (text : Text) : Option Float :=
  let (negative, rest) := splitSign text
  match String.ofList (rest.map Char.toLower) with
  | "inf" | "infinity" => some (signed negative Binary.infinity)
  | "nan" => some Binary.undefinedResult
  | _ => readDecimal? text

/-- The value of a hexadecimal digit of either case. -/
def hexDigit? (digit : Char) : Option Nat :=
  if '0' ≤ digit ∧ digit ≤ '9' then some (digit.toNat - '0'.toNat)
  else if 'a' ≤ digit ∧ digit ≤ 'f' then some (digit.toNat - 'a'.toNat + 10)
  else if 'A' ≤ digit ∧ digit ≤ 'F' then some (digit.toNat - 'A'.toNat + 10)
  else none

/-- Reads hexadecimal digits, at least one. Each digit is added to sixteen times the number before
it, which is rounded when it grows long. -/
def readHex? (digits : Text) : Option Float :=
  if digits.isEmpty then none
  else
    digits.foldlM
      (fun (total : Float) digit =>
        (hexDigit? digit).map fun value => total * 16 + Float.ofNat value)
      0

/-- The digits behind the mark of a hexadecimal numeral. -/
def hexBody? : Text → Option Text
  | '0' :: 'x' :: rest => some rest
  | '0' :: 'X' :: rest => some rest
  | _ => none

/-- The number that a text is taken for: blank texts are zero, and texts that are no numeral have
an undefined result. -/
def coerce (text : Text) : Float :=
  let text := text.trim
  if text.isEmpty then 0
  else
    match hexBody? text with
    | some digits => (readHex? digits).getD Binary.undefinedResult
    | none =>
        match String.ofList text with
        | "Infinity" | "+Infinity" => Binary.infinity
        | "-Infinity" => -Binary.infinity
        | _ => (readDecimal? text).getD Binary.undefinedResult

end Parlance.Numeral
