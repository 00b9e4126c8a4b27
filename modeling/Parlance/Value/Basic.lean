/-!
# Values

Values are plain data or handles. A list or a map is a handle to its contents in a heap, so two
values with one handle share them. A function is identified by a number of its own; reading a
method makes a new function every time.
-/

namespace Parlance

/-- A handle to a list. -/
structure ListRef where
  index : Nat
  deriving Repr, DecidableEq

/-- A handle to a map. -/
structure MapRef where
  index : Nat
  deriving Repr, DecidableEq

/-- The methods of lists. -/
inductive ListMethod where
  | join
  | push
  | pop
  | indexOf
  | includes
  | slice
  deriving Repr, DecidableEq

/-- The methods of strings. -/
inductive StringMethod where
  | toUpperCase
  | toLowerCase
  | trim
  | indexOf
  | slice
  | split
  deriving Repr, DecidableEq

/-- The list method of a name. -/
def ListMethod.ofName? : String → Option ListMethod
  | "join" => some join
  | "push" => some push
  | "pop" => some pop
  | "indexOf" => some indexOf
  | "includes" => some includes
  | "slice" => some slice
  | _ => none

/-- The string method of a name. -/
def StringMethod.ofName? : String → Option StringMethod
  | "toUpperCase" => some toUpperCase
  | "toLowerCase" => some toLowerCase
  | "trim" => some trim
  | "indexOf" => some indexOf
  | "slice" => some slice
  | "split" => some split
  | _ => none

/-- What a function does: a method, or something that the host provides. -/
inductive FunctionCode where
  | listMethod (method : ListMethod)
  | stringMethod (method : StringMethod)
  | host
  deriving Repr, DecidableEq

/-- A function. Two functions are the same if their identities are. -/
structure Function where
  identity : Nat
  name : String
  code : FunctionCode
  deriving Repr, DecidableEq

/-- A value. -/
inductive Value where
  | undefined
  | null
  | bool (value : Bool)
  | number (value : Float)
  | string (text : String)
  | list (ref : ListRef)
  | map (ref : MapRef)
  | function (function : Function)
  deriving Repr

namespace Value

instance : Inhabited Value := ⟨undefined⟩

/-- The name of the type of the value. -/
def typeName : Value → String
  | undefined => "undefined"
  | null => "null"
  | bool _ => "boolean"
  | number _ => "number"
  | string _ => "string"
  | list _ => "list"
  | map _ => "map"
  | function _ => "function"

/-- Whether the value is undefined or null. -/
def isNullish : Value → Bool
  | undefined => true
  | null => true
  | _ => false

/-- Whether the value is a list, a map or a function. -/
def isObject : Value → Bool
  | list _ => true
  | map _ => true
  | function _ => true
  | _ => false

/-- Whether a condition takes the value for true. -/
def isTruthy : Value → Bool
  | undefined => false
  | null => false
  | bool value => value
  | number value => value != 0 && !value.isNaN
  | string text => !text.isEmpty
  | _ => true

/-- The number of a count. -/
def ofNat (count : Nat) : Value := number (Float.ofNat count)

/-- The string of a text. -/
def ofText (text : List Char) : Value := string (String.ofList text)

end Value

end Parlance
