import CubeAssessment.Numeric.Arithmetic
import CubeAssessment.Numeric.Literal
import CubeAssessment.Text.Blank
import CubeAssessment.Text.LowerCase

/-! # Delta functions

A delta function turns a current value and its benchmark into the number that is labeled. The
functions compute with IEEE arithmetic, so a benchmark of zero gives an infinity or NaN and never
an error. -/

namespace CubeAssessment

/-- **A way of comparing a current value with its benchmark.** -/
inductive DeltaFunction where
  /-- `current / benchmark`. -/
  | ratio
  /-- `current - benchmark`. -/
  | difference
  /-- `(current - benchmark) / benchmark * 100`. -/
  | percentChange
  deriving DecidableEq, Repr

namespace DeltaFunction

/-- The canonical name of a function. -/
def name : DeltaFunction → String
  | ratio => "ratio"
  | difference => "difference"
  | percentChange => "percent-change"

/-- The function a text names, without regard to case and surrounding white space. `diff` and
`percentage` are further names of the last two. -/
def parse (text : String) : Option DeltaFunction :=
  let name := Text.lower (Text.trim text)
  if name = "ratio" then some ratio
  else if name = "difference" ∨ name = "diff" then some difference
  else if name = "percent-change" ∨ name = "percentage" then some percentChange
  else none

/-- The number one hundred. -/
def hundred : Binary64 := .signed false (Magnitude.ofUnits (100 * power 2 1074) 1)

/-- The value of a function at a current value and a benchmark. -/
def apply (f : DeltaFunction) (current benchmark : Binary64) : Binary64 :=
  match f with
  | ratio => current.div benchmark
  | difference => current.sub benchmark
  | percentChange => ((current.sub benchmark).div benchmark).mul hundred

end DeltaFunction

end CubeAssessment
