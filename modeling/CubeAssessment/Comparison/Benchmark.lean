import CubeAssessment.Numeric.Rendering
import CubeAssessment.Text.Blank
import CubeAssessment.Text.LowerCase

/-! # Benchmarks

A benchmark says what a measurement is compared against. It is written as a kind followed by the
kind's parameters, all of them text; this file checks such details and turns them into a typed
specification. Computing the benchmark's value is left to the execution layer. -/

namespace CubeAssessment

/-- The kinds of benchmark. -/
inductive BenchmarkKind where
  /-- The same measurement over a number of previous periods. -/
  | pastPeriods
  /-- The same measurement for a sibling member. -/
  | sibling
  /-- A fixed reference value. -/
  | constant
  deriving DecidableEq, Repr

namespace BenchmarkKind

/-- The canonical name of a kind. -/
def name : BenchmarkKind → String
  | pastPeriods => "past-n-periods"
  | sibling => "sibling"
  | constant => "constant"

/-- The number of parameters a kind takes. -/
def arity : BenchmarkKind → Nat
  | pastPeriods => 1
  | sibling => 2
  | constant => 1

/-- The kind a text names, without regard to case and surrounding white space. `past` is short for
`past-n-periods`. -/
def parse (text : String) : Option BenchmarkKind :=
  let name := Text.lower (Text.trim text)
  if name = "past" ∨ name = "past-n-periods" then some pastPeriods
  else if name = "sibling" then some sibling
  else if name = "constant" then some constant
  else none

end BenchmarkKind

/-- What is wrong with benchmark details. -/
inductive BenchmarkError where
  /-- There are no details. -/
  | missing
  /-- No kind has this name, quoted as given. -/
  | unknownKind (kind : String)
  /-- The kind takes another number of parameters. -/
  | arity (kind : BenchmarkKind) (found : Nat)
  /-- The kind cannot take this parameter, quoted as given. -/
  | invalidParameter (kind : BenchmarkKind) (value : String)
  deriving DecidableEq, Repr

namespace BenchmarkError

/-- The text of a benchmark error. -/
def message : BenchmarkError → String
  | missing => "Benchmark details are empty"
  | unknownKind kind => s!"Unknown benchmark kind '{kind}'"
  | arity kind found =>
      s!"Benchmark '{kind.name}' takes {kind.arity} parameter(s), found {found}"
  | invalidParameter kind value => s!"Invalid parameter '{value}' for benchmark '{kind.name}'"

end BenchmarkError

/-- **What a measurement is compared against.** -/
inductive BenchmarkSpec where
  /-- The same measurement over the previous periods. -/
  | pastPeriods (periods : Nat)
  /-- The same measurement for a sibling member of a level. -/
  | sibling (level member : String)
  /-- A fixed reference value. -/
  | constant (value : Binary64)
  deriving DecidableEq, Repr

namespace BenchmarkSpec

/-- The largest number of periods. -/
def maxPeriods : Nat := power 2 32 - 1

/-- Read a number of periods. At least one period and at most `maxPeriods` can be asked for. -/
def readPeriods (text : String) : Option Nat :=
  (Literal.readNatural text).filter fun periods => decide (1 ≤ periods ∧ periods ≤ maxPeriods)

/-- **Check a kind and its parameters.** The number of parameters is checked before any of them is
looked at. -/
def parse (kind : String) (parameters : List String) : Except BenchmarkError BenchmarkSpec :=
  match BenchmarkKind.parse kind with
  | none => .error (.unknownKind kind)
  | some .pastPeriods =>
      match parameters with
      | [periods] =>
          match readPeriods (Text.trim periods) with
          | some n => .ok (.pastPeriods n)
          | none => .error (.invalidParameter .pastPeriods periods)
      | _ => .error (.arity .pastPeriods parameters.length)
  | some .sibling =>
      match parameters with
      | [level, member] =>
          if Text.trim level = "" then .error (.invalidParameter .sibling level)
          else .ok (.sibling (Text.trim level) member)
      | _ => .error (.arity .sibling parameters.length)
  | some .constant =>
      match parameters with
      | [value] =>
          match Literal.readFinite (Text.trim value) with
          | some x => .ok (.constant x)
          | none => .error (.invalidParameter .constant value)
      | _ => .error (.arity .constant parameters.length)

/-- **Check a list of details**, the kind first. -/
def ofDetails : List String → Except BenchmarkError BenchmarkSpec
  | [] => .error .missing
  | kind :: parameters => parse kind parameters

/-- The kind of a specification. -/
def kind : BenchmarkSpec → BenchmarkKind
  | pastPeriods _ => .pastPeriods
  | sibling _ _ => .sibling
  | constant _ => .constant

/-- The parameters of a specification as text, in the order in which the kind takes them. -/
def parameters : BenchmarkSpec → List String
  | pastPeriods periods => [toString periods]
  | sibling level member => [level, member]
  | constant value => [value.plainText]

/-- The details that spell a specification in its canonical form. -/
def details (spec : BenchmarkSpec) : List String := spec.kind.name :: spec.parameters

/-- The text of a specification, such as `past-n-periods(4)`. -/
def text (spec : BenchmarkSpec) : String :=
  spec.kind.name ++ "(" ++ ", ".intercalate spec.parameters ++ ")"

/-- Whether two specifications are equal, their values compared as numbers: the zeros are equal and
NaN is not equal to itself. -/
def agrees : BenchmarkSpec → BenchmarkSpec → Bool
  | pastPeriods n, pastPeriods n' => n == n'
  | sibling level member, sibling level' member' => level == level' && member == member'
  | constant x, constant x' => x.equals x'
  | _, _ => false

end BenchmarkSpec

end CubeAssessment
