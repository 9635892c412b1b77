import CubeAssessment.Numeric.Rendering
import CubeAssessment.Text.Blank

/-! # Labeling rules

A labeling rule is five texts: a left bracket, a lower bound, an upper bound, a right bracket and
the label of the interval between the bounds. This file reads brackets and bounds; the interval a
rule stands for is built in `CubeAssessment.Labeling.Interval`. -/

namespace CubeAssessment

/-- **A labeling rule** as written. -/
structure LabelingRule where
  /-- `[` for a lower bound that belongs to the interval, `(` for one that does not. -/
  left : String
  /-- The lower bound: a decimal literal, `-inf`, `inf` or `+inf`. -/
  lower : String
  /-- The upper bound. -/
  upper : String
  /-- `]` for an upper bound that belongs to the interval, `)` for one that does not. -/
  right : String
  /-- The label. -/
  label : String
  deriving DecidableEq, Repr

/-- Why a list of rules is no partition of the extended real line. -/
inductive PartitionDefect where
  /-- There are no rules. -/
  | empty
  /-- One rule stands for no point at all. -/
  | emptyInterval
  /-- Two intervals share a point. -/
  | overlap
  /-- A point between two intervals belongs to neither. -/
  | gap
  /-- The intervals do not reach from `-inf` to `inf`. -/
  | notTotal
  deriving DecidableEq, Repr

namespace PartitionDefect

/-- The text of a defect. -/
def message : PartitionDefect → String
  | empty => "no rules"
  | emptyInterval => "empty interval"
  | overlap => "overlapping intervals"
  | gap => "gap between intervals"
  | notTotal => "does not cover -inf..inf"

end PartitionDefect

/-- What goes wrong with rules and values. `rule` is the position of the rule in its list. -/
inductive LabelingError where
  /-- A rule that does not have five fields. -/
  | malformedRule (rule found : Nat)
  /-- A bound that is no number, with its text as given. -/
  | invalidBound (rule : Nat) (bound : String)
  /-- A bracket that is none of the two its side has, with its text as given. -/
  | invalidBracket (rule : Nat) (bracket : String)
  /-- Rules that do not make up a partition. -/
  | invalidPartition (rule : Nat) (defect : PartitionDefect)
  /-- A value that no interval contains. -/
  | outOfRange (value : Binary64)
  deriving DecidableEq, Repr

namespace LabelingError

/-- The text of a labeling error. -/
def message : LabelingError → String
  | malformedRule rule found => s!"Rule {rule}: expected 5 fields, found {found}"
  | invalidBound rule bound => s!"Rule {rule}: invalid bound '{bound}'"
  | invalidBracket rule bracket => s!"Rule {rule}: invalid bracket '{bracket}'"
  | invalidPartition rule defect => s!"Rule {rule}: invalid partition ({defect.message})"
  | outOfRange value => s!"Value {value.plainText} is outside every labeled interval"

end LabelingError

namespace LabelingRule

/-! ## Rules from rows of fields -/

/-- The rule of a row of exactly five fields. -/
def ofFields : List String → Option LabelingRule
  | [left, lower, upper, right, label] => some ⟨left, lower, upper, right, label⟩
  | _ => none

/-- The five fields of a rule. -/
def fields (r : LabelingRule) : List String := [r.left, r.lower, r.upper, r.right, r.label]

/-- The rules of a list of rows whose first row has the position `start`. -/
def ofRowsFrom (start : Nat) : List (List String) → Except LabelingError (List LabelingRule)
  | [] => .ok []
  | row :: rows =>
      match ofFields row with
      | none => .error (.malformedRule start row.length)
      | some rule => (ofRowsFrom (start + 1) rows).map (rule :: ·)

/-- **The rules of a list of rows**, or the first row that is no rule. -/
def ofRows (rows : List (List String)) : Except LabelingError (List LabelingRule) :=
  ofRowsFrom 0 rows

/-! ## Brackets and bounds -/

/-- Whether a left bracket includes the bound. -/
def leftInclusive (text : String) : Option Bool :=
  if Text.trim text = "[" then some true
  else if Text.trim text = "(" then some false
  else none

/-- Whether a right bracket includes the bound. -/
def rightInclusive (text : String) : Option Bool :=
  if Text.trim text = "]" then some true
  else if Text.trim text = ")" then some false
  else none

/-- **The number a bound stands for.** Infinities are written `-inf`, `inf` or `+inf` and in no
other way; a literal whose value is not a real number is refused. A bound is never negative zero,
since `-0` and `0` are the same boundary. -/
def boundValue (text : String) : Option Binary64 :=
  let bound := Text.trim text
  if bound = "-inf" then some .negInfinity
  else if bound = "inf" ∨ bound = "+inf" then some .infinity
  else (Literal.readFinite bound).map Binary64.withoutNegativeZero

end LabelingRule

end CubeAssessment
