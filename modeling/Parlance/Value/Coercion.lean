import Parlance.Number.Word
import Parlance.Value.Rendering

/-!
# Coercion

Values as numbers and as words. A list is taken for the number that its text writes; maps and
functions are no numbers.
-/

namespace Parlance.Value

/-- The value as a number. -/
def toNumber (heap : Heap) : Value → Float
  | undefined => Binary.undefinedResult
  | null => 0
  | bool value => if value then 1 else 0
  | number value => value
  | string text => Numeral.coerce text.toList
  | list ref => Numeral.coerce ((list ref).text heap)
  | map _ => Binary.undefinedResult
  | function _ => Binary.undefinedResult

/-- The value as a word without sign. -/
def toWord (heap : Heap) (value : Value) : Nat := Word.ofFloat (value.toNumber heap)

/-- The value as a word read with a sign. -/
def toSignedWord (heap : Heap) (value : Value) : Int := Word.signed (value.toWord heap)

end Parlance.Value
