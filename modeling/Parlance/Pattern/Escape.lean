import Parlance.Pattern.Source
import Parlance.Unicode.Name

/-!
# Escapes

A backslash gives the character after it another meaning: a character that would otherwise be an
operator, a control character, a character by its code, a class of characters, or a condition on
word boundaries. A backslash before any other letter or digit is refused.
-/

namespace Parlance.Pattern

open Reader

/-- What an escape or a plain character stands for. A literal given by two hexadecimal digits is
marked as a byte. -/
inductive Atom where
  | literal (char : Char) (byte : Bool)
  | set (set : CharSet)
  | condition (condition : Assertion)

/-- The set with the other cases of its characters, if the flags ask for them. -/
def foldIf (flags : Flags) (set : CharSet) : CharSet :=
  if !flags.foldCase then set
  else if flags.unicode then .folded set
  else .union set (.inter (.range (Char.ofNat 0) (Char.ofNat 0x7F)) (.folded set))

/-- The complement of a set. Without Unicode it would have bytes that are no characters, and is
refused. -/
def complement (flags : Flags) (set : CharSet) : Except Flaw CharSet :=
  if flags.unicode then .ok (.compl set) else .error .notUnicode

/-- The plain decimal digits. -/
def plainDigits : CharSet := .range '0' '9'

/-- The plain letters, the plain digits and the underscore. -/
def plainWord : CharSet := .named ⟨isPlainWord, 4⟩

/-- The plain blank characters. -/
def plainBlank : CharSet := .union (.range '\t' '\r') (.single ' ')

/-- The class of the letter after the backslash, `d`, `s` or `w`. -/
def letterClass (flags : Flags) (letter : Char) : CharSet :=
  match letter, flags.unicode with
  | 'd', true => .named .digit
  | 'd', false => plainDigits
  | 's', true => .named .blank
  | 's', false => plainBlank
  | _, true => .named .word
  | _, false => plainWord

/-- Whether the character is an operator of patterns, in or outside of classes. -/
def isOperator (char : Char) : Bool :=
  ['\\', '.', '+', '*', '?', '(', ')', '|', '[', ']', '{', '}', '^', '$', '#', '&', '-', '~'].contains
    char

/-- Whether a backslash before the character leaves its meaning as it is. -/
def isPlainEscape (char : Char) : Bool :=
  isOperator char ||
    (decide (char.toNat < 0x80) && !char.isAlphanum && char != '<' && char != '>')

/-- The value of a hexadecimal digit. -/
def hexValue? (char : Char) : Option Nat :=
  if '0' ≤ char ∧ char ≤ '9' then some (char.toNat - '0'.toNat)
  else if 'a' ≤ char ∧ char ≤ 'f' then some (char.toNat - 'a'.toNat + 10)
  else if 'A' ≤ char ∧ char ≤ 'F' then some (char.toNat - 'A'.toNat + 10)
  else none

/-- The character with this code. -/
def charOfCode (code : Nat) : Except Flaw Char :=
  if code.isValidChar then .ok (Char.ofNat code) else .error .badCode

/-- Reads hexadecimal digits up to and with the closing brace. -/
def readBracedCode : Nat → (code : Nat) → (bare : Bool) → Reader Char
  | 0, _, _ => throw .badCode
  | fuel + 1, code, bare => do
      passSkip
      let char ← require .badCode
      if char = '}' then
        passSkip
        if bare then throw .badCode
        charOfCode code
      else
        match hexValue? char with
        | some value => readBracedCode fuel (16 * code + value) false
        | none => throw .badCode

/-- Reads exactly this many hexadecimal digits, the first of which is next. -/
def readFixedCode : (digits : Nat) → (code : Nat) → Reader Char
  | 0, code => charOfCode code
  | digits + 1, code => do
      let char ← require .badCode
      match hexValue? char with
      | some value =>
          passSkip
          readFixedCode digits (16 * code + value)
      | none => throw .badCode

/-- Reads a character by its code; the letter that tells the number of digits is next. -/
def readCode (letter : Char) : Reader Atom := do
  passSkip
  if (← require .badCode) = '{' then
    return .literal (← readBracedCode ((← ahead).length + 1) 0 true) false
  else
    match letter with
    | 'x' => return .literal (← readFixedCode 2 0) true
    | 'u' => return .literal (← readFixedCode 4 0) false
    | _ => return .literal (← readFixedCode 8 0) false

/-- Splits a class name at the first occurrence of the mark. -/
def splitName (mark name : Text) : Option (Text × Text) :=
  match name with
  | [] => none
  | char :: rest =>
      if mark.isPrefixOf name then some ([], name.drop mark.length)
      else (splitName mark rest).map fun (first, second) => (char :: first, second)

/-- The class that a name between braces stands for, and whether the name asks for the opposite. -/
def bracedClass (name : Text) : Option Unicode.Class × Bool :=
  match splitName ['!', '='] name with
  | some (property, value) => (Unicode.valueNamed? property value, true)
  | none =>
      match splitName [':'] name with
      | some (property, value) => (Unicode.valueNamed? property value, false)
      | none =>
          match splitName ['='] name with
          | some (property, value) => (Unicode.valueNamed? property value, false)
          | none => (Unicode.classNamed? name, false)

/-- Reads a class name up to and with the closing brace. -/
def readBracedName : Nat → (name : Text) → Reader Text
  | 0, _ => throw .unknownClass
  | fuel + 1, name => do
      passSkip
      let char ← require .unknownClass
      if char = '}' then
        pass
        return name.reverse
      else readBracedName fuel (char :: name)

/-- Reads a class by name; the letter `p`, or `P` for the opposite, is next. -/
def readNamedClass (letter : Char) : Reader Atom := do
  passSkip
  let first ← require .unknownClass
  let (found, opposite) ←
    if first = '{' then bracedClass <$> readBracedName ((← ahead).length + 1) []
    else if first = '\\' then throw .unknownClass
    else do
      pass
      pure (Unicode.classNamed? [first], false)
  let flags ← flags
  unless flags.unicode do throw .notUnicode
  match found with
  | none => throw .unknownClass
  | some cls =>
      let set := foldIf flags (.named cls)
      if (letter == 'P') != opposite then return .set (.compl set) else return .set set

/-- The condition with this name after a word boundary. -/
def boundaryNamed? (kind : WordKind) (name : Text) : Option Assertion :=
  match String.ofList name with
  | "start" => some (.wordStart kind)
  | "end" => some (.wordEnd kind)
  | "start-half" => some (.noWordBefore kind)
  | "end-half" => some (.noWordAfter kind)
  | _ => none

/-- Whether the character can stand in the name of a word boundary. -/
def isBoundaryChar (char : Char) : Bool := char.isAlpha || char == '-'

/-- Reads the rest of the name of a word boundary and the closing brace. -/
def readBoundaryName : Nat → (name : Text) → Reader Text
  | 0, _ => throw .badBoundary
  | fuel + 1, name => do
      let char ← require .badBoundary
      if isBoundaryChar char then
        passSkip
        readBoundaryName fuel (char :: name)
      else if char = '}' then
        pass
        return name.reverse
      else throw .badBoundary

/-- Reads what follows `\b`: the name of a special boundary in braces, or nothing. A brace that
starts a count is left alone. -/
def readBoundary : Reader Atom := do
  let kind := (← flags).wordKind
  let back ← ahead
  if back.head? = some '{' then
    passSkip
    let char ← require .badBoundary
    if isBoundaryChar char then
      match boundaryNamed? kind (← readBoundaryName ((← ahead).length + 1) []) with
      | some condition => return .condition condition
      | none => throw .badBoundary
    else
      goOn back
      return .condition (.wordBoundary kind)
  else return .condition (.wordBoundary kind)

/-- Reads an escape; the backslash is next. -/
def readEscape : Reader Atom := do
  pass
  let char ← require .badEscape
  let flags ← flags
  let kind := flags.wordKind
  match char with
  | 'x' | 'u' | 'U' => readCode char
  | 'p' | 'P' => readNamedClass char
  | 'd' | 's' | 'w' =>
      pass
      return .set (letterClass flags char)
  | 'D' | 'S' | 'W' =>
      pass
      return .set (← complement flags (letterClass flags char.toLower))
  | _ =>
      if char.isDigit then throw .backreference
      pass
      if isPlainEscape char then return .literal char false
      match char with
      | 'a' => return .literal (Char.ofNat 0x07) false
      | 'f' => return .literal (Char.ofNat 0x0C) false
      | 't' => return .literal '\t' false
      | 'n' => return .literal '\n' false
      | 'r' => return .literal '\r' false
      | 'v' => return .literal (Char.ofNat 0x0B) false
      | 'A' => return .condition .textStart
      | 'z' => return .condition .textEnd
      | 'b' => readBoundary
      | 'B' => return .condition (.noWordBoundary kind)
      | '<' => return .condition (.wordStart kind)
      | '>' => return .condition (.wordEnd kind)
      | _ => throw .badEscape

end Parlance.Pattern
