import Parlance.Unicode.Property

/-!
# Classes of characters

A class of characters is given by a test. The number of runs that its characters form tells how much
it takes to search for one of them.
-/

namespace Parlance.Unicode

/-- The number of runs on the stretch. -/
def Stretch.runs (stretch : Stretch) : Nat :=
  if stretch.step = 1 then 1 else (stretch.last - stretch.first) / stretch.step + 1

/-- A class of characters, with the number of their runs. -/
structure Class where
  holds : Char → Bool
  runs : Nat

namespace Class

/-- The class of the characters in a table. -/
def ofStretches (stretches : List Stretch) : Class :=
  ⟨fun char => listed stretches char.toNat,
    stretches.foldl (fun total stretch => total + stretch.runs) 0⟩

/-- The decimal digits. -/
def digit : Class := ⟨isDecimalDigit, 71⟩

/-- The blank characters. -/
def blank : Class := ⟨isBlank, blankRuns.length⟩

/-- The characters of words. -/
def word : Class := ⟨isWord, 796⟩

/-- The class with this name, where each class is listed by its names. -/
def named? (classes : List (List String × Class)) (name : String) : Option Class :=
  (classes.find? (·.1.contains name)).map (·.2)

end Class

end Parlance.Unicode
