import CubeAssessment.Labeling.Rule

/-! # Intervals

The interval of a labeling rule, on the extended real line. An infinite end always belongs to its
interval, whatever bracket the rule has there, so the infinities themselves lie in the outermost
intervals of a partition. -/

namespace CubeAssessment

/-- **A labeled interval** of the extended real line. -/
structure Interval where
  /-- The lower end. -/
  lower : Binary64
  /-- The upper end. -/
  upper : Binary64
  /-- Whether the lower end belongs to the interval. -/
  lowerInclusive : Bool
  /-- Whether the upper end belongs to the interval. -/
  upperInclusive : Bool
  /-- The label of its points. -/
  label : String
  /-- The position of the rule in the list it came from. -/
  rule : Nat
  deriving DecidableEq, Repr

namespace Interval

/-! ## From and to rules -/

/-- Whether an interval whose ends and brackets are those of a rule has no point: its ends are in
the wrong order, or they coincide and do not both belong to it. An infinity is no interval by
itself. -/
def isEmpty (i : Interval) : Bool :=
  match i.lower.totalCompare i.upper with
  | .gt => true
  | .eq => !(i.lower.isFinite && i.lowerInclusive && i.upperInclusive)
  | .lt => false

/-- The value of an optional reading, or the error that stands for its absence. -/
def orFail {α : Type} (error : LabelingError) : Option α → Except LabelingError α
  | some a => .ok a
  | none => .error error

/-- **The interval of the rule at a position.** The left bracket, the lower bound, the upper bound
and the right bracket are read in this order, then the interval must have a point. -/
def ofRule (rule : Nat) (r : LabelingRule) : Except LabelingError Interval := do
  let lowerInclusive ← orFail (.invalidBracket rule r.left) (LabelingRule.leftInclusive r.left)
  let lower ← orFail (.invalidBound rule r.lower) (LabelingRule.boundValue r.lower)
  let upper ← orFail (.invalidBound rule r.upper) (LabelingRule.boundValue r.upper)
  let upperInclusive ← orFail (.invalidBracket rule r.right) (LabelingRule.rightInclusive r.right)
  let interval : Interval :=
    { lower
      upper
      lowerInclusive := lowerInclusive || lower.equals .negInfinity
      upperInclusive := upperInclusive || upper.equals .infinity
      label := r.label
      rule }
  if interval.isEmpty then .error (.invalidPartition rule .emptyInterval) else .ok interval

/-- The normalized rule of an interval. -/
def toRule (i : Interval) : LabelingRule :=
  { left := if i.lowerInclusive then "[" else "("
    lower := i.lower.generalText
    upper := i.upper.generalText
    right := if i.upperInclusive then "]" else ")"
    label := i.label }

/-- The text of an interval and its label, such as `[-10.0, 10.0]: average`. -/
def text (i : Interval) : String :=
  let r := i.toRule
  s!"{r.left}{r.lower}, {r.upper}{r.right}: {r.label}"

/-! ## Points -/

/-- Whether a value lies in the interval. -/
def contains (i : Interval) (value : Binary64) : Bool :=
  (i.lower.below value || (value.equals i.lower && i.lowerInclusive)) &&
    (value.below i.upper || (value.equals i.upper && i.upperInclusive))

/-- Whether every point of the interval lies below a value. -/
def endsBefore (i : Interval) (value : Binary64) : Bool :=
  i.upper.below value || (i.upper.equals value && !i.upperInclusive)

/-! ## Order and adjacency -/

/-- Whether an interval may stand before another: it starts below it, or at the same bound unless
only the other includes that bound. -/
def startsFirst (a b : Interval) : Bool :=
  match a.lower.totalCompare b.lower with
  | .lt => true
  | .eq => a.lowerInclusive || !b.lowerInclusive
  | .gt => false

/-- What is wrong between an interval and the next: the first must end where the second starts, and
exactly one of them includes that bound. -/
def seamDefect (current next : Interval) : Option PartitionDefect :=
  match current.upper.totalCompare next.lower with
  | .lt => some .gap
  | .gt => some .overlap
  | .eq =>
      match current.upperInclusive, next.lowerInclusive with
      | true, true => some .overlap
      | false, false => some .gap
      | _, _ => none

end Interval

end CubeAssessment
