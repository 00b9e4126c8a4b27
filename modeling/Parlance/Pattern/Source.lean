import Parlance.Pattern.Basic

/-!
# Reading pattern source

The state of a reader of written patterns, with the small steps from which the readers of escapes,
classes and groups are made. The flags in force decide whether blanks and comments are skipped.
-/

namespace Parlance.Pattern

/-- Why a written pattern is refused. -/
inductive Flaw where
  | unclosedGroup
  | unopenedGroup
  | lookAround
  | badGroupName
  | repeatedGroupName
  | badFlags
  | nothingToRepeat
  | badCount
  | badEscape
  | backreference
  | badCode
  | badBoundary
  | unknownClass
  | unclosedClass
  | badClassItem
  | badClassRange
  | notUnicode
  | tooDeep
  | tooLarge
  deriving Repr, DecidableEq

/-- The flags that change the meaning of what follows them. -/
structure Flags where
  foldCase : Bool
  multiLine : Bool
  dotMatchesAll : Bool
  swapGreed : Bool
  anyLineEnd : Bool
  unicode : Bool
  spaced : Bool
  deriving Repr, DecidableEq

/-- The flags in force at the start of a pattern. -/
def Flags.initial : Flags :=
  { foldCase := false, multiLine := false, dotMatchesAll := false, swapGreed := false
    anyLineEnd := false, unicode := true, spaced := false }

/-- The words to which the flags refer. -/
def Flags.wordKind (flags : Flags) : WordKind :=
  if flags.unicode then .unicode else .ascii

/-- What is left to read, the flags in force, and the group names met so far. -/
structure Source where
  ahead : Text
  flags : Flags
  names : List Text

/-- A reader of pattern source. -/
abbrev Reader := StateT Source (Except Flaw)

namespace Reader

/-- The flags in force. -/
def flags : Reader Flags := return (← get).flags

/-- Puts other flags in force. -/
def setFlags (flags : Flags) : Reader Unit := modify ({ · with flags })

/-- The text that is left to read. -/
def ahead : Reader Text := return (← get).ahead

/-- Goes on reading at this text. -/
def goOn (ahead : Text) : Reader Unit := modify ({ · with ahead })

/-- The next character, if any is left. -/
def next : Reader (Option Char) := return (← ahead).head?

/-- Passes the next character. -/
def pass : Reader Unit := do goOn (← ahead).tail

/-- The text behind the blanks and comments at its start; a comment runs from a hash to the end of
its line, and with `comment` the text starts inside one. -/
def skipped : (comment : Bool) → Text → Text
  | _, [] => []
  | true, char :: rest => skipped (char != '\n') rest
  | false, char :: rest =>
      if Unicode.isBlank char then skipped false rest
      else if char = '#' then skipped true rest
      else char :: rest

/-- Passes blanks and comments, if the flags in force allow them. -/
def skip : Reader Unit := do
  if (← flags).spaced then goOn (skipped false (← ahead))

/-- Passes the next character and the blanks and comments behind it. -/
def passSkip : Reader Unit := do pass; skip

/-- The next character, which must exist. -/
def require (flaw : Flaw) : Reader Char := do
  match ← next with
  | some char => return char
  | none => throw flaw

/-- Passes this text if it is next, and says whether it was. -/
def passIf (text : Text) : Reader Bool := do
  let ahead ← ahead
  if text.isPrefixOf ahead then
    goOn (ahead.drop text.length)
    return true
  else return false

end Reader

end Parlance.Pattern
