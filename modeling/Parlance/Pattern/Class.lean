import Parlance.Pattern.Escape

/-!
# Bracketed classes

A bracketed class lists characters, ranges, escapes, named classes and further bracketed classes,
and combines such lists by intersection, difference and symmetric difference. A closing bracket
that comes first stands for itself, so no class can be written empty.
-/

namespace Parlance.Pattern

open Reader

/-- A set that has been read, with the depth of the brackets and combinations it was made from. -/
structure Listing where
  set : CharSet
  depth : Nat

namespace Listing

/-- The listing of a set without structure. -/
def leaf (set : CharSet) : Listing := ⟨set, 0⟩

/-- All the items together; `items` has the last one first. -/
def together (items : List Listing) : Listing :=
  match items with
  | [] => leaf .empty
  | [item] => item
  | items =>
      ⟨.unions (items.reverse.map Listing.set), 1 + (items.map Listing.depth).foldl max 0⟩

end Listing

/-- The operators between lists inside brackets. -/
inductive SetOperator where
  | inter
  | diff
  | symmDiff
  deriving Repr, DecidableEq

/-- The set that the operator makes of two. -/
def SetOperator.apply (operator : SetOperator) (left right : CharSet) : CharSet :=
  match operator with
  | inter => .inter left right
  | diff => .diff left right
  | symmDiff => .symmDiff left right

/-- Puts the list read last behind the operator that waits for it, if one does. -/
def settle (flags : Flags) (waiting : Option (SetOperator × Listing)) (last : Listing) : Listing :=
  match waiting with
  | none => last
  | some (operator, first) =>
      ⟨operator.apply (foldIf flags first.set) (foldIf flags last.set),
        1 + max first.depth last.depth⟩

/-- The plain characters of a class name such as `alpha`. -/
def plainClass? (name : Text) : Option CharSet :=
  let lower := CharSet.range 'a' 'z'
  let upper := CharSet.range 'A' 'Z'
  let alpha := CharSet.union upper lower
  match String.ofList name with
  | "alnum" => some (.union plainDigits alpha)
  | "alpha" => some alpha
  | "ascii" => some (.range (Char.ofNat 0) (Char.ofNat 0x7F))
  | "blank" => some (.union (.single '\t') (.single ' '))
  | "cntrl" => some (.union (.range (Char.ofNat 0) (Char.ofNat 0x1F)) (.single (Char.ofNat 0x7F)))
  | "digit" => some plainDigits
  | "graph" => some (.range '!' '~')
  | "lower" => some lower
  | "print" => some (.range ' ' '~')
  | "punct" =>
      some (.unions [.range '!' '/', .range ':' '@', .range '[' (Char.ofNat 0x60),
        .range (Char.ofNat 0x7B) '~'])
  | "space" => some plainBlank
  | "upper" => some upper
  | "word" => some plainWord
  | "xdigit" => some (.unions [plainDigits, .range 'A' 'F', .range 'a' 'f'])
  | _ => none

/-- Reads a named class such as `[:alpha:]` or `[:^alpha:]` inside brackets. What does not have
this form is left alone. -/
def readPlainClass? : Reader (Option CharSet) := do
  let back ← ahead
  match back with
  | '[' :: ':' :: rest =>
      let (opposite, rest) := match rest with
        | '^' :: rest => (true, rest)
        | rest => (false, rest)
      let name := rest.takeWhile (· != ':')
      match rest.dropWhile (· != ':'), plainClass? name with
      | ':' :: ']' :: rest, some set =>
          let flags ← flags
          goOn rest
          if opposite then return some (← complement flags (foldIf flags set))
          else return some (foldIf flags set)
      | _, _ => return none
  | _ => return none

/-- Reads one item of a class, which may turn out to be an end of a range. -/
def readItem : Reader Atom := do
  let char ← require .unclosedClass
  if char = '\\' then readEscape
  else
    pass
    return .literal char false

/-- The character that an atom names inside a class. Without Unicode it must be a plain one. -/
def literalOf (flags : Flags) (flaw : Flaw) : Atom → Except Flaw Char
  | .literal char _ =>
      if flags.unicode ∨ char.toNat < 0x80 then .ok char else .error .notUnicode
  | _ => .error flaw

/-- Reads an item or, if a hyphen follows that ends neither the class nor a list, a range. -/
def readRange : Reader CharSet := do
  let first ← readItem
  skip
  let flags ← flags
  let behind := (← ahead).tail
  let behind := if flags.spaced then skipped false behind else behind
  if (← require .unclosedClass) != '-' || behind.head? == some ']' || behind.head? == some '-' then
    match first with
    | .set set => return set
    | first => return .single (← literalOf flags .badClassItem first)
  else
    passSkip
    let last ← readItem
    let low ← literalOf flags .badClassRange first
    let high ← literalOf flags .badClassRange last
    if low ≤ high then return .range low high else throw .badClassRange

/-- Reads the hyphens that stand at the start of a class for themselves. -/
def readHyphens : Nat → List Listing → Reader (List Listing)
  | 0, items => return items
  | fuel + 1, items => do
      if (← require .unclosedClass) = '-' then
        passSkip
        readHyphens fuel (.leaf (.single '-') :: items)
      else return items

/-- Reads the start of a class, whose opening bracket is next: whether it is complemented, and the
hyphens and the bracket that stand for themselves. -/
def readOpening : Reader (Bool × List Listing) := do
  passSkip
  let complemented ← do
    if (← require .unclosedClass) = '^' then
      passSkip
      pure true
    else pure false
  let items ← readHyphens ((← ahead).length + 1) []
  if items.isEmpty && (← require .unclosedClass) == ']' then
    passSkip
    let _ ← require .unclosedClass
    return (complemented, [.leaf (.single ']')])
  else
    let _ ← require .unclosedClass
    return (complemented, items)

/-- The operator that these two characters write. -/
def setOperator? (first : Char) (second : Option Char) : Option SetOperator :=
  match first, second with
  | '&', some '&' => some .inter
  | '-', some '-' => some .diff
  | '~', some '~' => some .symmDiff
  | _, _ => none

/-- Reads the rest of a class up to and with its closing bracket. `items` has been read of the
present list, the last one first, and `waiting` is the operator before it with what comes first. -/
def readClassFrom : Nat → (complemented : Bool) → (items : List Listing) →
    (waiting : Option (SetOperator × Listing)) → Reader Listing
  | 0, _, _, _ => throw .unclosedClass
  | fuel + 1, complemented, items, waiting => do
      skip
      let char ← require .unclosedClass
      let flags ← flags
      if char = '[' then
        match ← readPlainClass? with
        | some set => readClassFrom fuel complemented (.leaf set :: items) waiting
        | none =>
            let (opposite, start) ← readOpening
            let nested ← readClassFrom fuel opposite start none
            readClassFrom fuel complemented (nested :: items) waiting
      else if char = ']' then
        pass
        let listing := settle flags waiting (.together items)
        let set := foldIf flags listing.set
        if complemented then return ⟨← complement flags set, listing.depth + 1⟩
        else return ⟨set, listing.depth + 1⟩
      else
        match setOperator? char (← ahead).tail.head? with
        | some operator =>
            pass
            pass
            readClassFrom fuel complemented []
              (some (operator, settle flags waiting (.together items)))
        | none =>
            let set ← readRange
            readClassFrom fuel complemented (.leaf set :: items) waiting

/-- Reads a bracketed class; its opening bracket is next. -/
def readClass : Reader Listing := do
  let (complemented, items) ← readOpening
  readClassFrom ((← ahead).length + 1) complemented items none

end Parlance.Pattern
