/-!
Architecture families.

* `Architecture`: the families, each with two accepted names;
* `Architecture.named?`: the family that a name stands for;
* `Architecture.display`: a family's own name.
-/

namespace BitProbe

/-- A family of architectures with one instruction encoding. -/
inductive Architecture where
  | fermi
  | kepler
  | maxwell
  | pascal
  deriving DecidableEq, Repr

namespace Architecture

/-- Every accepted name, grouped by family. -/
def names : List (String × Architecture) :=
  [("SM21", .fermi), ("Fermi", .fermi), ("SM35", .kepler), ("Kepler", .kepler),
   ("SM52", .maxwell), ("Maxwell", .maxwell), ("SM60", .pascal),
   ("Pascal", .pascal)]

/-- The family that a name stands for. -/
def named? (name : String) : Option Architecture :=
  (names.find? (·.1 = name)).map (·.2)

/-- A family's own name. -/
def display : Architecture → String
  | fermi => "Fermi"
  | kepler => "Kepler"
  | maxwell => "Maxwell"
  | pascal => "Pascal"

/-- Every family answers to its own name. -/
theorem named?_display (a : Architecture) : named? a.display = some a := by
  cases a <;> decide

end Architecture

end BitProbe
