import CubeAssessment.Labeling.Interval

/-! # Label partitions

A label partition covers the extended real line, both infinities included, by labeled intervals
that do not overlap. It is compiled from labeling rules in any order: the intervals are sorted by
their lower ends, and then it is enough to look at neighbours and at the two outer ends. -/

namespace CubeAssessment

/-! ## Binary search -/

/-- **The first index from `lo` on, below `hi`, at which a test fails**, or `hi`, provided that the
test holds up to some index and fails from there on. -/
def firstFailing (test : Nat → Bool) (lo hi : Nat) : Nat :=
  if lo < hi then
    let middle := lo + (hi - lo) / 2
    if test middle then firstFailing test (middle + 1) hi else firstFailing test lo middle
  else lo
termination_by hi - lo

/-! ## Partitions -/

/-- **A label partition**: the intervals in ascending order. Compiled partitions are the valid
ones. -/
structure LabelPartition where
  /-- The intervals. -/
  intervals : Array Interval
  deriving DecidableEq, Repr

namespace LabelPartition

/-- The intervals of a list of rules whose first has the position `start`, or what is wrong with the
first rule that stands for none. -/
def intervalsFrom (start : Nat) : List LabelingRule → Except LabelingError (List Interval)
  | [] => .ok []
  | r :: rules => do
      let interval ← Interval.ofRule start r
      let rest ← intervalsFrom (start + 1) rules
      return interval :: rest

/-- The first defect between neighbours, with the rule of the later one. -/
def firstSeamDefect : List Interval → Option LabelingError
  | current :: next :: rest =>
      match Interval.seamDefect current next with
      | some defect => some (.invalidPartition next.rule defect)
      | none => firstSeamDefect (next :: rest)
  | _ => none

/-- The defect at the outer ends of sorted intervals: the first must start at `-inf` and the last
end at `inf`. -/
def outerDefect (first last : Interval) : Option LabelingError :=
  if !first.lower.equals .negInfinity then some (.invalidPartition first.rule .notTotal)
  else if !last.upper.equals .infinity then some (.invalidPartition last.rule .notTotal)
  else none

/-- The first defect of sorted intervals, if they are no partition. -/
def defect? : List Interval → Option LabelingError
  | [] => some (.invalidPartition 0 .empty)
  | first :: rest =>
      (firstSeamDefect (first :: rest)).or
        (outerDefect first ((first :: rest).getLast (List.cons_ne_nil _ _)))

/-- **Compile labeling rules into a partition.** -/
def compile (rules : List LabelingRule) : Except LabelingError LabelPartition := do
  let intervals ← intervalsFrom 0 rules
  let sorted := intervals.mergeSort Interval.startsFirst
  match defect? sorted with
  | some error => .error error
  | none => .ok ⟨sorted.toArray⟩

/-- The number of intervals. -/
def size (p : LabelPartition) : Nat := p.intervals.size

/-- The labels in the order of the intervals. -/
def labels (p : LabelPartition) : List String := p.intervals.toList.map Interval.label

/-- The normalized rules in the order of the intervals. -/
def rules (p : LabelPartition) : List LabelingRule := p.intervals.toList.map Interval.toRule

/-- The position of the interval in which a value is looked for: the first that does not end before
it. -/
def position (p : LabelPartition) (value : Binary64) : Nat :=
  firstFailing (fun i => p.intervals[i]?.any (·.endsBefore value)) 0 p.size

/-- **The label of a value.** Every value but NaN lies in exactly one interval of a compiled
partition. -/
def classify (p : LabelPartition) (value : Binary64) : Except LabelingError String :=
  if value.isNaN then .error (.outOfRange value)
  else
    match p.intervals[p.position value]? with
    | some interval => .ok interval.label
    | none => .error (.outOfRange value)

end LabelPartition

end CubeAssessment
