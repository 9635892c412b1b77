import CubeAssessment.Assessment.Query
import CubeAssessment.Assessment.Settings
import CubeAssessment.Catalog

/-! # Building queries

A build turns the settings of an assessment into a query over a catalog, or fails with the first
thing that is wrong; there is no partial result. It goes through three stages, and what it logs on
its way is part of its result:

* the required settings are there and the target cube is found;
* the group-by and selection names resolve in that cube;
* benchmark, delta functions and labeling rules are valid. -/

namespace CubeAssessment

/-- The settings a build cannot do without. -/
inductive RequiredField where
  /-- The target cube. -/
  | targetCube
  /-- The aggregation function. -/
  | aggregation
  /-- The measurement. -/
  | measurement
  /-- The benchmark. -/
  | benchmark
  /-- The delta functions, at least one. -/
  | deltaFunctions
  deriving DecidableEq, Repr

namespace RequiredField

/-- The name of a field. -/
def name : RequiredField → String
  | targetCube => "target_cube"
  | aggregation => "aggregation_function"
  | measurement => "measurement"
  | benchmark => "benchmark"
  | deltaFunctions => "delta_functions"

end RequiredField

/-- **Why a build fails.** -/
inductive BuildError where
  /-- A required setting is missing or blank. -/
  | missingField (field : RequiredField)
  /-- The catalog has no cube of the lower-cased name. -/
  | cubeNotFound (name : String)
  /-- A group-by or selection name does not resolve. -/
  | levelResolutionFailed (cause : ClauseError)
  /-- The benchmark details are not valid. -/
  | invalidBenchmark (cause : BenchmarkError)
  /-- No delta function has this name, quoted as given. -/
  | invalidDeltaFunction (name : String)
  /-- The labeling rules are no partition. -/
  | labeling (cause : LabelingError)
  deriving DecidableEq, Repr

namespace BuildError

/-- The text of a build error. Labeling errors speak for themselves. -/
def message : BuildError → String
  | missingField field => s!"Missing required field: {field.name}"
  | cubeNotFound name => s!"Cube not found: {name}"
  | levelResolutionFailed cause =>
      s!"Level resolution failed for '{cause.cause.name}': {cause.message}"
  | invalidBenchmark cause => s!"Invalid benchmark spec: {cause.message}"
  | invalidDeltaFunction name => s!"Unknown delta function '{name}'"
  | labeling cause => cause.message

end BuildError

/-! ## Events -/

/-- How detailed an event is. -/
inductive Severity where
  /-- A stage of a build. -/
  | debug
  /-- A step within a stage. -/
  | trace
  deriving DecidableEq, Repr

/-- The value of a field of an event. -/
inductive EventValue where
  /-- A text. -/
  | text (s : String)
  /-- A number. -/
  | count (n : Nat)
  deriving DecidableEq, Repr

/-- **What a build logs.** -/
inductive BuildEvent where
  /-- The target cube was found under its lower-cased name. -/
  | resolvedCube (cube : String)
  /-- The clauses were built, with these texts. -/
  | builtClauses (gamma sigma : String)
  /-- The rules make up a partition of so many intervals. -/
  | compiledPartition (intervals : Nat)
  /-- The query was built, with this name and the text of its benchmark. -/
  | builtQuery (name benchmark : String)
  deriving DecidableEq, Repr

namespace BuildEvent

/-- The span all events of a build belong to. -/
def span : String := "assess::build"

/-- How detailed an event is. -/
def severity : BuildEvent → Severity
  | compiledPartition _ => .trace
  | _ => .debug

/-- The text of an event. -/
def message : BuildEvent → String
  | resolvedCube _ => "Resolved target cube"
  | builtClauses _ _ => "Built clauses"
  | compiledPartition _ => "Compiled label partition"
  | builtQuery _ _ => "Built assessment query"

/-- The fields of an event beside its text. -/
def fields : BuildEvent → List (String × EventValue)
  | resolvedCube cube => [("cube", .text cube)]
  | builtClauses gamma sigma => [("gamma", .text gamma), ("sigma", .text sigma)]
  | compiledPartition intervals => [("intervals", .count intervals)]
  | builtQuery name benchmark => [("query", .text name), ("benchmark", .text benchmark)]

end BuildEvent

/-! ## Stages -/

/-- The trimmed value of a required text setting. -/
def required (field : RequiredField) (value : Option String) : Except BuildError String :=
  match value.map Text.trim with
  | none => .error (.missingField field)
  | some text => if text = "" then .error (.missingField field) else .ok text

/-- What the first stage of a build finds. -/
structure Target where
  /-- The lower-cased name of the cube. -/
  cubeName : String
  /-- The cube. -/
  cube : Cube
  /-- The aggregation function, trimmed. -/
  aggregation : String
  /-- The measurement, trimmed. -/
  measurement : String
  /-- The benchmark as set. -/
  benchmark : BenchmarkSetting
  deriving DecidableEq, Repr

/-- What the last stage of a build finds. -/
structure Measure where
  /-- The benchmark. -/
  benchmark : BenchmarkSpec
  /-- The delta functions. -/
  deltaFunctions : List DeltaFunction
  /-- The label partition. -/
  partition : LabelPartition
  deriving DecidableEq, Repr

namespace Settings

/-- **The first stage**: the required settings, in the order in which they are asked for, and the
target cube. -/
def target (s : Settings) (catalog : Catalog) : Except BuildError Target := do
  let cubeName ← required .targetCube s.targetCube
  let aggregation ← required .aggregation s.aggregation
  let measurement ← required .measurement s.measurement
  match s.benchmark with
  | none => .error (.missingField .benchmark)
  | some benchmark =>
      if s.deltaFunctions.isEmpty then .error (.missingField .deltaFunctions)
      else
        let cubeName := Text.lower cubeName
        match catalog.find? cubeName with
        | none => .error (.cubeNotFound cubeName)
        | some cube => .ok { cubeName, cube, aggregation, measurement, benchmark }

/-- **The second stage**: the clauses of group-by names and selection pairs, group-by first. -/
def clauses (cube : Cube) (names : List String) (pairs : List (String × String)) :
    Except BuildError (GammaClause × SigmaClause) := do
  let gamma ← (GammaClause.build cube names).mapError .levelResolutionFailed
  let sigma ← (SigmaClause.build cube pairs).mapError .levelResolutionFailed
  return (gamma, sigma)

/-- The typed benchmark of a setting. -/
def typedBenchmark : BenchmarkSetting → Except BuildError BenchmarkSpec
  | .typed spec => .ok spec
  | .details details => (BenchmarkSpec.ofDetails details).mapError .invalidBenchmark

/-- The delta function of a name. -/
def deltaFunction (name : String) : Except BuildError DeltaFunction :=
  match DeltaFunction.parse name with
  | some f => .ok f
  | none => .error (.invalidDeltaFunction name)

/-- **The last stage**: the benchmark, the delta functions and the label partition. -/
def measure (s : Settings) (benchmark : BenchmarkSetting) : Except BuildError Measure := do
  let benchmark ← typedBenchmark benchmark
  let deltaFunctions ← s.deltaFunctions.mapM deltaFunction
  let partition ← (LabelPartition.compile s.rules).mapError .labeling
  return { benchmark, deltaFunctions, partition }

end Settings

/-! ## The build -/

/-- The query made of what the stages find. -/
def Query.ofStages (target : Target) (gamma : GammaClause) (sigma : SigmaClause)
    (measure : Measure) : Query :=
  { targetCube := target.cubeName
    name := target.cubeName ++ "_" ++ target.measurement
    aggregation := Text.lower target.aggregation
    measurement := target.measurement
    gamma
    sigma
    benchmark := measure.benchmark
    deltaFunctions := measure.deltaFunctions
    partition := measure.partition }

/-- The outcome of a build and the events it logged, in order. -/
structure BuildReport where
  /-- The query, or why there is none. -/
  outcome : Except BuildError Query
  /-- The events. -/
  events : List BuildEvent

/-- **Build a query and report what was logged**, going through the group-by names and through the
selection pairs in the orders given. -/
def Settings.buildReportInOrder (s : Settings) (catalog : Catalog) (names : List String)
    (pairs : List (String × String)) : BuildReport :=
  match s.target catalog with
  | .error error => ⟨.error error, []⟩
  | .ok target =>
      let found := BuildEvent.resolvedCube target.cubeName
      match clauses target.cube names pairs with
      | .error error => ⟨.error error, [found]⟩
      | .ok (gamma, sigma) =>
          let clauses := BuildEvent.builtClauses gamma.text sigma.text
          match s.measure target.benchmark with
          | .error error => ⟨.error error, [found, clauses]⟩
          | .ok measure =>
              let query := Query.ofStages target gamma sigma measure
              ⟨.ok query, [found, clauses, .compiledPartition measure.partition.size,
                .builtQuery query.name query.benchmark.text]⟩

/-- Build a query, going through names and pairs as they are stored. -/
def Settings.buildReport (s : Settings) (catalog : Catalog) : BuildReport :=
  s.buildReportInOrder catalog s.groupBy s.selection.entries

/-- **Build a query from the settings over a catalog.** -/
def Settings.build (s : Settings) (catalog : Catalog) : Except BuildError Query :=
  (s.buildReport catalog).outcome

end CubeAssessment
