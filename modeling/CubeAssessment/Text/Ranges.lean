/-! # Ranges of code points

Character properties are tables of inclusive ranges of code points. -/

namespace CubeAssessment.Text

/-- Whether an inclusive range of the list contains the code point. -/
def inRanges (ranges : List (Nat × Nat)) (code : Nat) : Bool :=
  ranges.any fun r => decide (r.1 ≤ code) && decide (code ≤ r.2)

end CubeAssessment.Text
