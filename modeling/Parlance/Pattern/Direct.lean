import Parlance.Pattern.Basic

/-!
# Direct matching

Some patterns are matched by walking through them with the rest of the pattern as a continuation,
taking up the less preferred branch when the continuation fails. The walk finds the preferred match
of every pattern whose unbounded repetitions cannot go round without moving on, but it can take
long, so it is meant for patterns with few ways to match one text.
-/

namespace Parlance.Pattern

/-- A walk through part of a pattern: from a place on, it offers the places behind its matches to
the continuation, preferred ones first, until the continuation accepts one. -/
abbrev Walk (α : Type) := Place → (Place → Option α) → Option α

namespace Walk

variable {α : Type}

/-- Exactly `count` rounds. -/
def times (body : Walk α) : Nat → Walk α
  | 0, here, accept => accept here
  | count + 1, here, accept => body here fun there => times body count there accept

/-- One of two ways to go on; the first is preferred if the repetition is greedy. -/
def prefer (greedy : Bool) (onward stop : Unit → Option α) : Option α :=
  if greedy then onward () <|> stop () else stop () <|> onward ()

/-- At most `count` rounds. -/
def atMost (body : Walk α) (greedy : Bool) : Nat → Walk α
  | 0, here, accept => accept here
  | count + 1, here, accept =>
      prefer greedy
        (fun _ => body here fun there => atMost body greedy count there accept)
        (fun _ => accept here)

/-- Any number of rounds, but not more than the text `limit` has characters. -/
def many (body : Walk α) (greedy : Bool) : (limit : Text) → Walk α
  | [], here, accept => accept here
  | _ :: limit, here, accept =>
      prefer greedy
        (fun _ => body here fun there => many body greedy limit there accept)
        (fun _ => accept here)

end Walk

/-- Walks through the pattern. -/
def walk {α : Type} : Pattern → Walk α
  | empty, here, accept => accept here
  | chars set, here, accept => (here.advance? set).bind accept
  | assertion condition, here, accept => if condition.holds here then accept here else none
  | seq first second, here, accept => first.walk here fun there => second.walk there accept
  | alt first second, here, accept => first.walk here accept <|> second.walk here accept
  | rounds body least most greedy, here, accept =>
      Walk.times body.walk least here fun there =>
        match most with
        | some most => Walk.atMost body.walk greedy (most - least) there accept
        | none => Walk.many body.walk greedy there.ahead there accept

/-- The text behind the preferred match at the place. -/
def walkFrom? (pattern : Pattern) (here : Place) : Option Text :=
  pattern.walk here fun there => some there.ahead

/-- The characters with which a match of the pattern can start. Meant for rigid patterns. -/
def firsts : Pattern → CharSet
  | chars set => set
  | seq first _ => first.firsts
  | alt first second => .union first.firsts second.firsts
  | _ => .empty

/-- Whether the pattern matches no text in two ways and never the empty text, since every choice in
it is settled by the next character. -/
def rigid : Pattern → Bool
  | chars _ => true
  | seq first second => first.rigid && second.rigid
  | alt first second => first.rigid && second.rigid && first.firsts.apart second.firsts
  | _ => false

/-- Whether all repetitions of the pattern have rigid bodies, apart from optional parts. -/
def steady : Pattern → Bool
  | seq first second => first.steady && second.steady
  | alt first second => first.steady && second.steady
  | rounds body _ (some 1) _ => body.steady
  | rounds body _ _ _ => body.rigid
  | _ => true

/-- A rough count of the ways in which the pattern can match, with a hundred for the numbers of
rounds of an unbounded repetition. -/
def ways : Pattern → Nat
  | seq first second => first.ways * second.ways
  | alt first second => first.ways + second.ways
  | rounds body _ (some 1) _ => body.ways + 1
  | rounds _ least (some most) _ => most - least + 1
  | rounds _ _ none _ => 100
  | _ => 1

/-- Whether the pattern is suited to direct matching: it has not many ways to match, or not more of
them than parts. -/
def isDirect (pattern : Pattern) : Bool :=
  pattern.steady && decide (pattern.ways ≤ max 5000000 pattern.size)

end Parlance.Pattern
