import Parlance.Text.Bytes
import Parlance.Unicode.Blank

/-!
# Searching and splitting texts

Positions in this module count characters, offsets count bytes.
-/

namespace Parlance.Text

/-- The offset of the first occurrence of `needle` among bytes. -/
def offset? (needle : List UInt8) : List UInt8 → Option Nat
  | [] => if needle.isEmpty then some 0 else none
  | byte :: rest =>
      if needle.isPrefixOf (byte :: rest) then some 0
      else (offset? needle rest).map (· + 1)

/-- The position of the first occurrence of `needle`. The occurrence is found among the bytes, and the
characters in front of it are counted. -/
def position? (needle text : Text) : Option Nat :=
  (offset? needle.bytes text.bytes).bind fun offset =>
    (text.takeBytes? offset).map List.length

/-- The parts between the occurrences of `separator`, where the first `skip` characters of the
text still belong to an occurrence. Occurrences are found from left to right and do not overlap. -/
def partsAfter (separator : Text) : Nat → Text → List Text
  | _, [] => [[]]
  | skip + 1, _ :: rest => partsAfter separator skip rest
  | 0, char :: rest =>
      if separator.isPrefixOf (char :: rest) then
        [] :: partsAfter separator (separator.length - 1) rest
      else
        match partsAfter separator 0 rest with
        | [] => [[char]]
        | part :: parts => (char :: part) :: parts

/-- The parts of the text between the occurrences of a separator that is not empty. -/
def split (separator text : Text) : List Text :=
  partsAfter separator 0 text

/-- The text without the blank characters at either end. -/
def trim (text : Text) : Text :=
  ((text.dropWhile Unicode.isBlank).reverse.dropWhile Unicode.isBlank).reverse

/-- The parts one after the other, with `separator` between them. -/
def join (separator : Text) (parts : List Text) : Text :=
  List.flatten (parts.intersperse separator)

end Parlance.Text
