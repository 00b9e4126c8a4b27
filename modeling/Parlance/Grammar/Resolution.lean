import Parlance.Grammar.Basic

/-!
# Resolution

Resolving a language description gives every term a number when its name is first met, before the
names it refers to are followed, so cycles end at numbers already given. Phrases have no numbers:
wherever one is mentioned its members take its place, each term once. Terms that the root does not
reach are resolved too, so every mistake in a description is found.
-/

namespace Parlance

/-- Why the definition of a term makes no sense. -/
inductive Defect where
  | tokenWithMarkers
  | tokenWithSubgroups
  | groupWithoutMarkers
  | groupWithoutSubgroups
  | aetherIsPhrase
  deriving Repr, DecidableEq

/-- The wording of a defect. -/
def Defect.reason : Defect → String
  | tokenWithMarkers => "entity declares separate start/end markers"
  | tokenWithSubgroups => "entity declares subgroups"
  | groupWithoutMarkers => "group requires both start and end markers"
  | groupWithoutSubgroups => "group requires subgroups"
  | aetherIsPhrase => "aether must name a term"

/-- Why a language description cannot be resolved. -/
inductive ResolveError where
  | unresolvedReference (name referrer : String)
  | noRoot (name : String)
  | invalidTerm (name : String) (defect : Defect)
  | invalidPattern (name : String) (flaw : Pattern.Flaw)
  deriving Repr, DecidableEq

/-- The message of the error. The flaw of a pattern is not put into words. -/
def ResolveError.message : ResolveError → String
  | unresolvedReference name referrer =>
      "unresolved reference '" ++ name ++ "' (referenced by '" ++ referrer ++ "')"
  | noRoot name => "no root specified: '" ++ name ++ "' is not defined"
  | invalidTerm name defect => "invalid term '" ++ name ++ "': " ++ defect.reason
  | invalidPattern name _ => "invalid marker pattern in term '" ++ name ++ "'"

namespace Resolution

/-- The numbers that names have, and the terms of the numbers. The slot of a number is open until
its term is complete. -/
structure Arena where
  slots : List (Option Term)
  names : Dictionary TermId

namespace Arena

/-- The arena without numbers. -/
def empty : Arena := ⟨[], .empty⟩

/-- The number of a name. -/
def idOf? (arena : Arena) (name : String) : Option TermId := arena.names.get? name

/-- Gives a name the next number and opens a slot for its term. -/
def reserve (arena : Arena) (name : String) : Arena :=
  ⟨arena.slots ++ [none], arena.names.insert name arena.slots.length⟩

/-- Completes a slot. -/
def fill (arena : Arena) (id : TermId) (term : Term) : Arena :=
  { arena with slots := arena.slots.set id (some term) }

end Arena

/-- A list of names being flattened: the arena so far, the terms met in order, and the phrases
entered. -/
structure Walk where
  arena : Arena
  met : List TermId
  entered : List String

/-- A walk that has met nothing yet. -/
def Walk.start (arena : Arena) : Walk := ⟨arena, [], []⟩

/-- Adds a term to those met, once. -/
def Walk.meet (walk : Walk) (id : TermId) : Walk :=
  if walk.met.contains id then walk else { walk with met := walk.met ++ [id] }

/-- How a list of names, mentioned by a referrer, becomes a list of numbers. -/
abbrev Flattening :=
  (referrer : String) → List String → Arena → Except ResolveError (List TermId × Arena)

/-- How a walk goes through a list of names, mentioned by a referrer. -/
abbrev Expansion := (referrer : String) → List String → Walk → Except ResolveError Walk

/-- Makes a marker of the named term ready. -/
def matcher (name : String) (marker : Marker) : Except ResolveError Matcher :=
  match marker.matcher with
  | .ok matcher => .ok matcher
  | .error flaw => .error (.invalidPattern name flaw)

/-- The postgroups of the named term, if it has any. -/
def postgroups (flatten : Flattening) (name : String) (definition : TermDefinition)
    (arena : Arena) : Except ResolveError (Option (List TermId) × Arena) :=
  match definition.postgroups with
  | some names => do
      let (ids, arena) ← flatten name names arena
      return (some ids, arena)
  | none => return (none, arena)

/-- The start marker and the body of the named term: its shape, its markers and its subgroups. -/
def build (flatten : Flattening) (name : String) (definition : TermDefinition) (arena : Arena) :
    Except ResolveError (Matcher × TermBody × Arena) :=
  match definition.entity with
  | some marker =>
      if definition.start.isSome || definition.stop.isSome then
        throw (.invalidTerm name .tokenWithMarkers)
      else if definition.subgroups.isSome then throw (.invalidTerm name .tokenWithSubgroups)
      else do
        let start ← matcher name marker
        return (start, .token, arena)
  | none =>
      match definition.start, definition.stop with
      | some start, some stop =>
          match definition.subgroups with
          | some names => do
              let start ← matcher name start
              let stop ← matcher name stop
              let (subgroups, arena) ← flatten name names arena
              return (start, .group stop subgroups, arena)
          | none => throw (.invalidTerm name .groupWithoutSubgroups)
      | _, _ => throw (.invalidTerm name .groupWithoutMarkers)

/-- Completes the named term: its postgroups first, then the rest. -/
def complete (flatten : Flattening) (name : String) (definition : TermDefinition) (arena : Arena) :
    Except ResolveError (Term × Arena) := do
  let (postgroups, arena) ← postgroups flatten name definition arena
  let (start, body, arena) ← build flatten name definition arena
  let flags := ⟨definition.entity.isSome, definition.samePostgroups, false⟩
  return (⟨name, flags, start, body, postgroups⟩, arena)

/-- The number of a term, which is given and completed if it is new. -/
def number (spec : Spec) (flatten : Flattening) (name referrer : String) (arena : Arena) :
    Except ResolveError (TermId × Arena) :=
  match arena.idOf? name with
  | some id => .ok (id, arena)
  | none =>
      match spec.definitions.get? name with
      | some (.term definition) => do
          let id := arena.slots.length
          let (term, arena) ← complete flatten name definition (arena.reserve name)
          return (id, arena.fill id term)
      | _ => .error (.unresolvedReference name referrer)

/-- Flattens a list of names by a walk of its own. -/
def flattenBy (expand : Expansion) : Flattening := fun referrer names arena => do
  let walk ← expand referrer names (.start arena)
  return (walk.met, walk.arena)

/-- Follows one name: enters a phrase, once, or numbers a term. -/
def follow (spec : Spec) (expand : Expansion) (referrer : String) (walk : Walk) (name : String) :
    Except ResolveError Walk :=
  match spec.definitions.get? name with
  | some (.phrase members) =>
      if walk.entered.contains name then .ok walk
      else expand name members { walk with entered := name :: walk.entered }
  | some (.term _) => do
      let (id, arena) ← number spec (flattenBy expand) name referrer walk.arena
      return { walk with arena }.meet id
  | none => .error (.unresolvedReference name referrer)

/-- Walks through a list of names. The fuel bounds how deep phrases and terms are followed. -/
def expand (spec : Spec) : (fuel : Nat) → Expansion
  | 0, _, _, walk => .ok walk
  | fuel + 1, referrer, names, walk => names.foldlM (follow spec (expand spec fuel) referrer) walk

/-- Enough fuel for a description: each step down enters a new term, or a new phrase for the term
entered last. -/
def fuel (spec : Spec) : Nat := (spec.definitions.size + 1) * (spec.definitions.size + 1) + 1

/-- Flattens a list of names. -/
def flatten (spec : Spec) : Flattening := flattenBy (expand spec (fuel spec))

/-- Numbers every term of the description, in the order of their names. -/
def numberAll (spec : Spec) (arena : Arena) : Except ResolveError Arena :=
  spec.definitions.entries.foldlM
    (fun arena entry =>
      match entry.2 with
      | .term _ => Prod.snd <$> number spec (flatten spec) entry.1 "<spec>" arena
      | .phrase _ => .ok arena)
    arena

/-- The number of the term between tokens, if the description has one. -/
def aetherId (spec : Spec) (arena : Arena) : Except ResolveError (Option TermId × Arena) :=
  match spec.aether with
  | none => .ok (none, arena)
  | some name =>
      match spec.definitions.get? name with
      | some (.term _) => do
          let (id, arena) ← number spec (flatten spec) name "<aether>" arena
          return (some id, arena)
      | some (.phrase _) => .error (.invalidTerm name .aetherIsPhrase)
      | none => .error (.unresolvedReference name "<aether>")

/-- The terms in the slots, the first of which has the given number. None may be open. -/
def collect : (id : TermId) → List (Option Term) → Except ResolveError (List Term)
  | _, [] => .ok []
  | id, some term :: slots => do
      let terms ← collect (id + 1) slots
      return term :: terms
  | id, none :: _ => .error (.unresolvedReference ("#" ++ Nat.repr id) "<placeholder>")

/-- Sets the flag of the term between tokens, if there is one. -/
def markAether (aether : Option TermId) (terms : List Term) : List Term :=
  match aether with
  | some id => terms.modify id Term.markAether
  | none => terms

end Resolution

open Resolution in
/-- The grammar of a language description. -/
def Spec.resolve (spec : Spec) : Except ResolveError Grammar := do
  unless spec.definitions.contains spec.root do throw (.noRoot spec.root)
  let (root, arena) ← flatten spec "<root>" [spec.root] .empty
  let arena ← numberAll spec arena
  let (aether, arena) ← aetherId spec arena
  let terms ← collect 0 arena.slots
  return ⟨spec.root, markAether aether terms, arena.names, root, aether⟩

end Parlance
