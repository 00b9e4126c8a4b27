import Parlance.Dictionary
import Parlance.Text.Bytes

/-!
# Language descriptions

A language is described by named terms and phrases. A term is a token, or a bracketed group with
the terms that may stand inside it; a phrase is an ordered list of terms and phrases. Terms and
phrases refer to each other by name, in cycles if need be.
-/

namespace Parlance

/-- How the start, the end or the whole of a term is recognized: by one text, by the longest of
several texts, or by a written pattern. -/
inductive Marker where
  | literal (text : Text)
  | anyOf (texts : List Text)
  | pattern (source : Text)
  deriving Repr, DecidableEq

/-- The definition of a term. Any combination of fields can be written down; resolution refuses
those that are neither a token, with `entity` alone, nor a group, with `start`, `stop` and
`subgroups`. After a match of the term its `postgroups` become the candidates, unless they are
absent or `samePostgroups` keeps the present ones. -/
structure TermDefinition where
  entity : Option Marker
  start : Option Marker
  stop : Option Marker
  subgroups : Option (List String)
  postgroups : Option (List String)
  samePostgroups : Bool
  deriving Repr, DecidableEq

namespace TermDefinition

/-- A token that the marker recognizes. -/
def token (marker : Marker) : TermDefinition :=
  ⟨some marker, none, none, none, none, false⟩

/-- A group between two markers. -/
def group (start stop : Marker) (subgroups : List String) : TermDefinition :=
  ⟨none, some start, some stop, some subgroups, none, false⟩

/-- The same term with these candidates after it. -/
def followedBy (definition : TermDefinition) (names : List String) : TermDefinition :=
  { definition with postgroups := some names }

end TermDefinition

/-- What a name stands for. -/
inductive Definition where
  | term (definition : TermDefinition)
  | phrase (names : List String)
  deriving Repr, DecidableEq

/-- A language description: its definitions, the name at its root, and the term, if any, that may
stand between any two tokens. -/
structure Spec where
  root : String
  aether : Option String
  definitions : Dictionary Definition

namespace Spec

/-- A description without definitions. -/
def rootedAt (root : String) : Spec := ⟨root, none, .empty⟩

/-- The description with this term added. -/
def term (spec : Spec) (name : String) (definition : TermDefinition) : Spec :=
  { spec with definitions := spec.definitions.insert name (.term definition) }

/-- The description with this phrase added. -/
def phrase (spec : Spec) (name : String) (names : List String) : Spec :=
  { spec with definitions := spec.definitions.insert name (.phrase names) }

/-- The description with this term between any two tokens. -/
def skipping (spec : Spec) (name : String) : Spec := { spec with aether := some name }

end Spec

end Parlance
