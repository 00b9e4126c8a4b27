import Parlance.Number.Numeral

/-!
# Literals

What the tokens of numbers and strings stand for.
-/

namespace Parlance.Arithmetic

/-- The number that a numeral stands for. -/
def readNumber? (text : Text) : Option Float :=
  match Numeral.hexBody? text with
  | some digits => Numeral.readHex? digits
  | none => Numeral.readNamedOrDecimal? text

/-- The character that a backslash makes of the one after it. -/
def escapeMeaning (char : Char) : Char :=
  match char with
  | 'n' => '\n'
  | 't' => '\t'
  | 'r' => '\r'
  | 'b' => Char.ofNat 0x08
  | 'f' => Char.ofNat 0x0C
  | other => other

/-- The text with its escapes resolved. A backslash at the end stands for itself. -/
def unescape : Text → Text
  | [] => []
  | ['\\'] => ['\\']
  | '\\' :: char :: rest => escapeMeaning char :: unescape rest
  | char :: rest => char :: unescape rest

/-- The text between the quotes of a string token, which must be the same at both ends. -/
def readString? (text : Text) : Option Text :=
  match text with
  | [] => none
  | quote :: rest =>
      if (quote = '"' ∨ quote = '\'') ∧ rest.getLast? = some quote then
        some (unescape rest.dropLast)
      else none

end Parlance.Arithmetic
