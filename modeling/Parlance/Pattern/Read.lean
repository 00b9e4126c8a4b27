import Parlance.Pattern.Class

/-!
# Reading patterns

A written pattern is read from left to right into a `Pattern`. Groups nest; flags set inside a
group end with it. A repetition applies to the piece before it and can itself be repeated. The
nesting of a pattern and the size of its written-out form are bounded.
-/

namespace Parlance.Pattern

open Reader

/-- The greatest nesting of groups, repetitions, choices, sequences and classes. -/
def depthLimit : Nat := 250

/-- The greatest size of a pattern with its repetitions written out: ten mebibytes of instructions
with 32 bytes each, five of which stand around every pattern. -/
def sizeLimit : Nat := 10 * 1024 * 1024 / 32 - 5

/-- Whether the pattern matches no character. -/
def onlyEmpty : Pattern → Bool
  | empty => true
  | chars _ => false
  | assertion _ => true
  | seq first second => first.onlyEmpty && second.onlyEmpty
  | alt first second => first.onlyEmpty && second.onlyEmpty
  | rounds body _ _ _ => body.onlyEmpty

/-- A part of a pattern that has been read. The setting of flags is a piece too, but it cannot be
repeated. -/
structure Piece where
  pattern : Pattern
  depth : Nat
  repeatable : Bool

namespace Piece

/-- A piece without parts. -/
def leaf (pattern : Pattern) : Piece := ⟨pattern, 0, true⟩

/-- The piece that the setting of flags leaves behind. -/
def setting : Piece := ⟨.empty, 0, false⟩

/-- Several pieces as one, made by `join`; a single piece stays as it is. `pieces` has the last one
first. -/
def gather (join : List Pattern → Pattern) (pieces : List Piece) : Piece :=
  match pieces with
  | [] => leaf .empty
  | [piece] => piece
  | pieces =>
      let matching := pieces.reverse.filter Piece.repeatable
      ⟨join (matching.map Piece.pattern), 1 + (pieces.map Piece.depth).foldl max 0, true⟩

/-- The piece in a group of its own. -/
def grouped (piece : Piece) : Piece := ⟨piece.pattern, piece.depth + 1, true⟩

/-- The repeated piece. Rounds that only match the empty text are not counted beyond the first. -/
def repeated (piece : Piece) (least : Nat) (most : Option Nat) (greedy : Bool) : Piece :=
  let (least, most) :=
    if piece.pattern.onlyEmpty then (min least 1, some (min (most.getD 1) 1)) else (least, most)
  let pattern :=
    if most = some 0 then Pattern.empty
    else if least = 1 ∧ most = some 1 then piece.pattern
    else Pattern.rounds piece.pattern least most greedy
  ⟨pattern, piece.depth + 1, true⟩

end Piece

/-- Sets or clears the flag of a letter. -/
def Flags.put? (flags : Flags) (letter : Char) (value : Bool) : Option Flags :=
  match letter with
  | 'i' => some { flags with foldCase := value }
  | 'm' => some { flags with multiLine := value }
  | 's' => some { flags with dotMatchesAll := value }
  | 'U' => some { flags with swapGreed := value }
  | 'u' => some { flags with unicode := value }
  | 'R' => some { flags with anyLineEnd := value }
  | 'x' => some { flags with spaced := value }
  | _ => none

/-- Reads flag letters up to and with the closing parenthesis or the colon, and gives the flags
with that last character. A hyphen clears the flags after it; no letter and no hyphen may come
twice, and a hyphen needs a letter behind it. `seen` has the characters so far, the last one
first. -/
def readFlags : Nat → (seen : Text) → Flags → Reader (Flags × Char)
  | 0, _, _ => throw .badFlags
  | fuel + 1, seen, flags => do
      let char ← require .badFlags
      pass
      if char = ':' ∨ char = ')' then
        if seen.head? = some '-' ∨ (char = ')' ∧ seen.isEmpty) then throw .badFlags
        return (flags, char)
      else if seen.contains char then throw .badFlags
      else if char = '-' then readFlags fuel (char :: seen) flags
      else
        match flags.put? char (!seen.contains '-') with
        | some flags => readFlags fuel (char :: seen) flags
        | none => throw .badFlags

/-- Whether the character can stand in the name of a group. -/
def isNameChar (first : Bool) (char : Char) : Bool :=
  char == '_' || Unicode.isAlphabetic char ||
    (!first && (char == '.' || char == '[' || char == ']' || Unicode.isNumeric char))

/-- Reads the name of a group and the closing angle bracket. -/
def readGroupName : Nat → (name : Text) → Reader Unit
  | 0, _ => throw .badGroupName
  | fuel + 1, name => do
      let char ← require .badGroupName
      pass
      if char = '>' then
        if name.isEmpty then throw .badGroupName
        if (← get).names.contains name then throw .repeatedGroupName
        modify fun source => { source with names := name :: source.names }
      else if isNameChar name.isEmpty char then readGroupName fuel (char :: name)
      else throw .badGroupName

/-- Reads the start of a group, whose parenthesis is next, and says whether a group follows or only
flags were set. -/
def readGroupStart : Reader Bool := do
  pass
  skip
  let back ← ahead
  if ["?=", "?!", "?<=", "?<!"].any fun look => look.toList.isPrefixOf back then
    throw .lookAround
  let fuel := back.length + 1
  if (← passIf ['?', 'P', '<']) || (← passIf ['?', '<']) then
    readGroupName fuel []
    return true
  else if ← passIf ['?'] then
    let (flags, stop) ← readFlags fuel [] (← flags)
    setFlags flags
    return stop = ':'
  else return true

/-- Reads the digits that are next, onto the digits read before, the last one first. -/
def readDigits : Nat → (digits : Text) → Reader Text
  | 0, digits => return digits
  | fuel + 1, digits => do
      match ← next with
      | some char =>
          if char.isDigit then
            passSkip
            readDigits fuel (char :: digits)
          else return digits
      | none => return digits

/-- Reads a decimal number, which may stand between blanks. -/
def readNumber : Reader Nat := do
  goOn ((← ahead).dropWhile Unicode.isBlank)
  let digits ← readDigits (← ahead).length []
  goOn ((← ahead).dropWhile Unicode.isBlank)
  skip
  if digits.isEmpty then throw .badCount
  let number := digits.foldr (fun digit total => 10 * total + (digit.toNat - '0'.toNat)) 0
  if number < Nat.pow 2 32 then return number else throw .badCount

/-- Reads the bounds of a counted repetition up to and without the closing brace; the opening brace
is next. -/
def readBounds : Reader (Nat × Option Nat) := do
  passSkip
  let _ ← require .badCount
  let least ← readNumber
  if (← next) = some ',' then
    passSkip
    if (← require .badCount) = '}' then return (least, none)
    else
      let most ← readNumber
      if least ≤ most then return (least, some most) else throw .badCount
  else return (least, some least)

/-- Reads a repetition operator, which is next: the bounds and whether it is greedy. -/
def readRepetition (operator : Char) : Reader (Nat × Option Nat × Bool) := do
  let (least, most) ← match operator with
    | '?' => pure (0, some 1)
    | '*' => pure (0, none)
    | '+' => pure (1, none)
    | _ => do
        let bounds ← readBounds
        if (← require .badCount) != '}' then throw .badCount
        pure bounds
  if operator = '{' then passSkip else pass
  let lazy ← passIf ['?']
  return (least, most, lazy == (← flags).swapGreed)

/-- The condition that a caret or a dollar sign states. -/
def lineCondition (flags : Flags) (start : Bool) : Assertion :=
  match flags.multiLine, flags.anyLineEnd, start with
  | false, _, true => .textStart
  | false, _, false => .textEnd
  | true, false, true => .lineStart
  | true, false, false => .lineEnd
  | true, true, true => .anyLineStart
  | true, true, false => .anyLineEnd

/-- The characters that a dot matches. -/
def dotSet (flags : Flags) : Except Flaw CharSet :=
  if !flags.unicode then .error .notUnicode
  else if flags.dotMatchesAll then .ok .all
  else if flags.anyLineEnd then .ok (.compl (.union (.single '\r') (.single '\n')))
  else .ok (.compl (.single '\n'))

/-- The pattern of one character. -/
def charPattern (flags : Flags) (char : Char) : Pattern :=
  if flags.foldCase && !(Unicode.caseVariants char).isEmpty then
    .chars (foldIf flags (.single char))
  else .chars (.single char)

/-- Reads a single character, an escape, a dot, a caret or a dollar sign, which is next. -/
def readSimple (char : Char) : Reader Pattern := do
  let flags ← flags
  match char with
  | '\\' =>
      match ← readEscape with
      | .literal char byte =>
          if !flags.unicode && byte && decide (char.toNat ≥ 0x80) then throw .notUnicode
          return charPattern flags char
      | .set set => return .chars set
      | .condition condition => return .assertion condition
  | _ =>
      pass
      match char with
      | '.' => return .chars (← dotSet flags)
      | '^' => return .assertion (lineCondition flags true)
      | '$' => return .assertion (lineCondition flags false)
      | _ => return charPattern flags char

/-- Reads the branches of a choice up to the end of the source or a parenthesis that closes no
group read here. `pieces` has been read of the present branch and `branches` are the ones before
it, the last ones first. -/
def readBranches : Nat → (pieces branches : List Piece) → Reader Piece
  | 0, _, _ => throw .tooLarge
  | fuel + 1, pieces, branches => do
      skip
      match ← next with
      | none | some ')' =>
          return .gather choice (.gather sequence pieces :: branches)
      | some '|' =>
          pass
          readBranches fuel [] (.gather sequence pieces :: branches)
      | some '(' =>
          let outer ← flags
          if ← readGroupStart then
            let inner ← readBranches fuel [] []
            unless ← passIf [')'] do throw .unclosedGroup
            setFlags outer
            readBranches fuel (inner.grouped :: pieces) branches
          else readBranches fuel (.setting :: pieces) branches
      | some '[' =>
          let listing ← readClass
          readBranches fuel (⟨.chars listing.set, listing.depth, true⟩ :: pieces) branches
      | some char =>
          if char = '?' ∨ char = '*' ∨ char = '+' ∨ char = '{' then
            match pieces with
            | [] => throw .nothingToRepeat
            | piece :: pieces =>
                unless piece.repeatable do throw .nothingToRepeat
                let (least, most, greedy) ← readRepetition char
                readBranches fuel (piece.repeated least most greedy :: pieces) branches
          else
            let pattern ← readSimple char
            readBranches fuel (.leaf pattern :: pieces) branches

/-- Reads a written pattern. -/
def read (source : Text) : Except Flaw Pattern := do
  let (piece, rest) ← (readBranches (source.length + 1) [] []).run ⟨source, .initial, []⟩
  unless rest.ahead.isEmpty do throw .unopenedGroup
  unless piece.depth ≤ depthLimit do throw .tooDeep
  unless piece.pattern.size ≤ sizeLimit do throw .tooLarge
  return piece.pattern

end Parlance.Pattern
