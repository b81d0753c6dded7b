/-!
# Sets of code points

A set of characters given by ranges of code points, as the tables of character
properties are.
-/

namespace JobShell.Text

/-- Whether one of the inclusive ranges holds a value. -/
def inRanges (ranges : List (Nat × Nat)) (value : Nat) : Bool :=
  ranges.any fun range => range.1 ≤ value && value ≤ range.2

end JobShell.Text
