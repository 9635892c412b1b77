import CubeAssessment.Clauses
import CubeAssessment.Comparison.Benchmark
import CubeAssessment.Comparison.Delta
import CubeAssessment.Labeling.Partition

/-! # Assessment queries

An assessment query is what the execution layer consumes: the canonical text of a cube query, the
benchmark and the delta functions to compare its result with, and the partition that labels each
delta. -/

namespace CubeAssessment

namespace Interval

/-- Whether two intervals are equal, their ends compared as numbers. -/
def agrees (a b : Interval) : Bool :=
  a.lower.equals b.lower && a.upper.equals b.upper && a.lowerInclusive == b.lowerInclusive &&
    a.upperInclusive == b.upperInclusive && a.label == b.label && a.rule == b.rule

end Interval

namespace LabelPartition

/-- Whether two partitions have equal intervals, their ends compared as numbers. -/
def agrees (p q : LabelPartition) : Bool :=
  p.size == q.size && (p.intervals.toList.zip q.intervals.toList).all fun pair =>
    pair.1.agrees pair.2

end LabelPartition

/-- **An assessment query.** -/
structure Query where
  /-- The lower-cased name of the target cube. -/
  targetCube : String
  /-- The name of the query, `<cube>_<measurement>`. -/
  name : String
  /-- The lower-cased aggregation function. -/
  aggregation : String
  /-- The measurement. -/
  measurement : String
  /-- The levels grouped by. -/
  gamma : GammaClause
  /-- The predicates selected by. -/
  sigma : SigmaClause
  /-- What the measurement is compared against. -/
  benchmark : BenchmarkSpec
  /-- How it is compared, in the order asked for. -/
  deltaFunctions : List DeltaFunction
  /-- How the deltas are labeled. -/
  partition : LabelPartition
  deriving DecidableEq, Repr

/-- One delta function applied to a current value and a benchmark, with the label of its value. -/
structure Assessment where
  /-- The function. -/
  function : DeltaFunction
  /-- Its value. -/
  delta : Binary64
  /-- The label of the value. -/
  label : String
  deriving DecidableEq, Repr

namespace Query

/-- The lines of the canonical text, as keys and values. -/
def lines (q : Query) : List (String × String) :=
  [("CubeName", q.targetCube), ("Name", q.name), ("AggrFunc", q.aggregation),
    ("Measure", q.measurement), ("Gamma", q.gamma.text), ("Sigma", q.sigma.text)]

/-- **The canonical text of the cube query**: a line `key:value` for each of the six settings, in
fixed order and without a line end after the last. -/
def text (q : Query) : String :=
  "\n".intercalate (q.lines.map fun line => line.1 ++ ":" ++ line.2)

instance : ToString Query := ⟨text⟩

/-- The label of a delta value. -/
def label (q : Query) (delta : Binary64) : Except LabelingError String :=
  q.partition.classify delta

/-- Apply one delta function and label its value. -/
def assessOne (q : Query) (current benchmark : Binary64) (f : DeltaFunction) :
    Except LabelingError Assessment :=
  let delta := f.apply current benchmark
  (q.label delta).map fun label => ⟨f, delta, label⟩

/-- **Apply every delta function in order and label each value**; a value without a label fails the
whole assessment. -/
def assess (q : Query) (current benchmark : Binary64) : Except LabelingError (List Assessment) :=
  q.deltaFunctions.mapM (q.assessOne current benchmark)

/-- Whether two queries are equal, numbers in them compared as numbers. -/
def agrees (q r : Query) : Bool :=
  q.targetCube == r.targetCube && q.name == r.name && q.aggregation == r.aggregation &&
    q.measurement == r.measurement && q.gamma == r.gamma && q.sigma == r.sigma &&
    q.benchmark.agrees r.benchmark && q.deltaFunctions == r.deltaFunctions &&
    q.partition.agrees r.partition

end Query

end CubeAssessment
