import Parlance.Text.Bytes
import Parlance.Unicode.Property

/-!
# Quoted texts

Messages show a piece of source in double quotes, with every character that could not be told on
sight written as an escape: quotes and backslashes, line ends and tabs, characters without a
visible form, and characters that join the one before them.
-/

namespace Parlance.Text

/-- The digits of a number in lower case hexadecimal. -/
def hexDigits (number : Nat) : Text :=
  Nat.toDigits 16 number

/-- How a quoted text shows a character. -/
def quotedChar (char : Char) : Text :=
  if char = '"' ∨ char = '\\' then ['\\', char]
  else if char = '\n' then ['\\', 'n']
  else if char = '\r' then ['\\', 'r']
  else if char = '\t' then ['\\', 't']
  else if char.toNat = 0 then ['\\', '0']
  else if Unicode.extendsGrapheme char || !Unicode.isPrintable char then
    ['\\', 'u', '{'] ++ hexDigits char.toNat ++ ['}']
  else [char]

/-- The text in quotes, with escapes. -/
def quoted (text : Text) : Text :=
  '"' :: text.flatMap quotedChar ++ ['"']

end Parlance.Text
