import Parlance.Text.Bytes
import Parlance.Unicode.Property

/-!
# The case of a text

Upper and lower case of whole texts. A capital sigma becomes a final sigma in lower case when a
cased character stands before it and none after it, passing over characters that case ignores.
-/

namespace Parlance.Text

/-- The text in upper case. -/
def upperCase (text : Text) : Text :=
  text.flatMap Unicode.upperCase

/-- Whether the first character that case does not ignore is a cased one. -/
def meetsCased (text : Text) : Bool :=
  match text.dropWhile Unicode.isCaseIgnorable with
  | char :: _ => Unicode.isCased char
  | [] => false

/-- The lower case of what follows the characters `before`, the nearest of which comes first. -/
def lowerCaseAfter : Text → Text → Text
  | _, [] => []
  | before, char :: rest =>
      let lower :=
        if char = 'Σ' then
          if meetsCased before && !meetsCased rest then ['ς'] else ['σ']
        else Unicode.lowerCase char
      lower ++ lowerCaseAfter (char :: before) rest

/-- The text in lower case. -/
def lowerCase (text : Text) : Text :=
  lowerCaseAfter [] text

end Parlance.Text
