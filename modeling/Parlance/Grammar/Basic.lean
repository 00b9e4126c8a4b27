import Parlance.Grammar.Matcher

/-!
# Grammars

A grammar is a language description in which every name has been resolved and every marker made
ready. Its terms are numbered, and candidate lists hold numbers.
-/

namespace Parlance

/-- The number of a term in its grammar. -/
abbrev TermId := Nat

/-- What a term is: a token, which is its start marker, or a group. -/
inductive TermBody where
  | token
  | group (stop : Matcher) (subgroups : List TermId)

/-- The flags of a term: that it is a token, that it keeps the candidates, and that it may stand
between any two tokens. -/
structure TermFlags where
  entity : Bool
  samePostgroups : Bool
  aether : Bool
  deriving Repr, DecidableEq

/-- The flags as one number. -/
def TermFlags.bits (flags : TermFlags) : Nat :=
  (if flags.entity then 1 else 0) + (if flags.samePostgroups then 2 else 0) +
    (if flags.aether then 4 else 0)

/-- A resolved term. -/
structure Term where
  name : String
  flags : TermFlags
  start : Matcher
  body : TermBody
  postgroups : Option (List TermId)

namespace Term

/-- Whether the candidates stay the same behind the term. -/
def samePostgroups (term : Term) : Bool := term.flags.samePostgroups

/-- Sets the flag of the term that may stand between any two tokens. -/
def markAether (term : Term) : Term := { term with flags := { term.flags with aether := true } }

/-- Whether the term is a token. -/
def isToken (term : Term) : Bool :=
  match term.body with
  | .token => true
  | .group .. => false

/-- The marker that ends the term, if it is a group. -/
def stop? (term : Term) : Option Matcher :=
  match term.body with
  | .token => none
  | .group stop _ => some stop

/-- The candidates inside the term; a token has none. -/
def subgroups (term : Term) : List TermId :=
  match term.body with
  | .token => []
  | .group _ subgroups => subgroups

/-- The candidates after a match of the term, where `present` are those before it. -/
def candidatesAfter (term : Term) (present : List TermId) : List TermId :=
  match term.postgroups with
  | some postgroups => if term.samePostgroups then present else postgroups
  | none => present

end Term

/-- A resolved language: its terms in the order of their numbers, and the numbers of their names.
The root's candidates are `root`; the term `aether` may stand between any two tokens. -/
structure Grammar where
  rootName : String
  terms : List Term
  names : Dictionary TermId
  root : List TermId
  aether : Option TermId

namespace Grammar

/-- The term with this number. -/
def term? (grammar : Grammar) (id : TermId) : Option Term := grammar.terms[id]?

/-- The number of the term with this name. -/
def idOf? (grammar : Grammar) (name : String) : Option TermId := grammar.names.get? name

/-- The term with this name. -/
def termNamed? (grammar : Grammar) (name : String) : Option Term :=
  (grammar.idOf? name).bind grammar.term?

end Grammar

end Parlance
