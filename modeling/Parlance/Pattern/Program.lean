import Std.Data.HashSet
import Parlance.Pattern.Basic

/-!
# Matching programs

Any pattern can be turned into a program whose instructions read one character, test a condition
or split into two ways. Running it explores the ways in order of preference and never takes up the
same instruction at the same position twice, so the number of steps is bounded by the length of the
program times the length of the text.
-/

namespace Parlance

/-- An instruction; `next` is the instruction to go on with. -/
inductive Instruction where
  | read (set : CharSet) (next : Nat)
  | test (condition : Assertion) (next : Nat)
  | split (preferred other : Nat)
  | accept

/-- A program: its instructions and the one to start with. -/
structure Program where
  code : Array Instruction
  entry : Nat

namespace Program

/-- Adds an instruction to a program under construction and gives its number. -/
def emit (instruction : Instruction) : StateM (Array Instruction) Nat := do
  let code ← get
  set (code.push instruction)
  return code.size

/-- A split that prefers going on to leaving if the repetition is greedy. -/
def fork (greedy : Bool) (onward leave : Nat) : Instruction :=
  if greedy then .split onward leave else .split leave onward

/-- Writes the code of `count` rounds in front of `next`; `body` writes one round. -/
def emitTimes (body : Nat → StateM (Array Instruction) Nat) :
    Nat → Nat → StateM (Array Instruction) Nat
  | 0, next => return next
  | count + 1, next => do emitTimes body count (← body next)

/-- Writes the code of at most `count` rounds in front of `next`. Each round can be left for
`leave`. -/
def emitAtMost (body : Nat → StateM (Array Instruction) Nat) (greedy : Bool) (leave : Nat) :
    Nat → Nat → StateM (Array Instruction) Nat
  | 0, next => return next
  | count + 1, next => do
      let round ← body next
      emitAtMost body greedy leave count (← emit (fork greedy round leave))

/-- Writes a loop in front of `next` and gives the split at its end together with its body. -/
def emitLoop (body : Nat → StateM (Array Instruction) Nat) (greedy : Bool) (next : Nat) :
    StateM (Array Instruction) (Nat × Nat) := do
  let turn ← emit .accept
  let round ← body turn
  modify fun code => code.setIfInBounds turn (fork greedy round next)
  return (turn, round)

/-- Writes the code of the pattern in front of `next` and gives the instruction to enter it by. A
loop whose body can match the empty text is entered by a split of its own, so that leaving it at
once and going round without moving on are told apart. -/
def emitPattern : Pattern → Nat → StateM (Array Instruction) Nat
  | .empty, next => return next
  | .chars set, next => emit (.read set next)
  | .assertion condition, next => emit (.test condition next)
  | .seq first second, next => do emitPattern first (← emitPattern second next)
  | .alt first second, next => do
      let other ← emitPattern second next
      let preferred ← emitPattern first next
      emit (.split preferred other)
  | .rounds body least (some most) greedy, next => do
      let optional ← emitAtMost (emitPattern body) greedy next (most - least) next
      emitTimes (emitPattern body) least optional
  | .rounds body 0 none greedy, next => do
      let (turn, round) ← emitLoop (emitPattern body) greedy next
      if body.nullable then emit (fork greedy round next) else return turn
  | .rounds body (least + 1) none greedy, next => do
      let (_, round) ← emitLoop (emitPattern body) greedy next
      emitTimes (emitPattern body) least round

/-- The program of a pattern. -/
def ofPattern (pattern : Pattern) : Program :=
  let build : StateM (Array Instruction) Nat := do
    let accept ← emit .accept
    emitPattern pattern accept
  let (entry, code) := build.run #[]
  ⟨code, entry⟩

/-- A thread: the instruction it is at, its position in characters, and its place. -/
structure Thread where
  instruction : Nat
  position : Nat
  here : Place

/-- The pairs of instruction and position that have been taken up. -/
abbrev Visited := Std.HashSet (Nat × Nat)

/-- Runs the threads, the first of them before the others, for at most the given number of steps.
Gives the text behind the preferred match, if there is one, and what has been taken up. -/
def explore (program : Program) : Nat → Visited → List Thread → Option Text × Visited
  | 0, visited, _ => (none, visited)
  | _ + 1, visited, [] => (none, visited)
  | steps + 1, visited, thread :: waiting =>
      let key := (thread.instruction, thread.position)
      if visited.contains key then explore program steps visited waiting
      else
        let visited := visited.insert key
        match program.code[thread.instruction]? with
        | some (.read set next) =>
            match thread.here.advance? set with
            | some there => explore program steps visited (⟨next, thread.position + 1, there⟩ :: waiting)
            | none => explore program steps visited waiting
        | some (.test condition next) =>
            if condition.holds thread.here then
              explore program steps visited ({ thread with instruction := next } :: waiting)
            else explore program steps visited waiting
        | some (.split preferred other) =>
            explore program steps visited
              ({ thread with instruction := preferred } :: { thread with instruction := other } ::
                waiting)
        | some .accept => (some thread.here.ahead, visited)
        | none => explore program steps visited waiting

/-- A number of steps that no exploration of a text of this length exceeds: every pair is taken up
once and leaves at most two threads. -/
def stepBound (program : Program) (length : Nat) : Nat :=
  2 * program.code.size * (length + 1) + 2

end Program

end Parlance
