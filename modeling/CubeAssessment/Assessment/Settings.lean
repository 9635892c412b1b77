import CubeAssessment.Collections.NameMap
import CubeAssessment.Comparison.Benchmark
import CubeAssessment.Labeling.Rule

/-! # Assessment settings

The settings of an assessment are collected one by one, or all at once from a request, and stay
until they are replaced. They are loosely typed: names, literals and rows of fields as given, to be
checked when a query is built. -/

namespace CubeAssessment

/-- A benchmark as set: already typed, or as details still to be checked. -/
inductive BenchmarkSetting where
  /-- A typed benchmark, taken as it is. -/
  | typed (spec : BenchmarkSpec)
  /-- A kind and its parameters. -/
  | details (details : List String)
  deriving DecidableEq, Repr

/-- **The settings of an assessment.** A setting that was not given is `none` or empty. -/
structure Settings where
  /-- The name of the cube to assess. -/
  targetCube : Option String
  /-- Literals to select by, under the names of their levels. -/
  selection : NameMap String
  /-- The names of the levels to group by. -/
  groupBy : List String
  /-- The aggregation function. -/
  aggregation : Option String
  /-- The measurement. -/
  measurement : Option String
  /-- The benchmark. -/
  benchmark : Option BenchmarkSetting
  /-- The names of the delta functions. -/
  deltaFunctions : List String
  /-- The labeling rules. -/
  rules : List LabelingRule
  deriving DecidableEq, Repr

/-- A change of one setting. -/
inductive SettingChange where
  /-- The cube to assess. -/
  | targetCube (name : String)
  /-- The literals to select by; of several for one name the last counts. -/
  | selection (pairs : List (String × String))
  /-- The levels to group by. -/
  | groupBy (names : List String)
  /-- The aggregation function. -/
  | aggregation (function : String)
  /-- The measurement. -/
  | measurement (measurement : String)
  /-- A typed benchmark. -/
  | benchmark (spec : BenchmarkSpec)
  /-- A benchmark by its details. -/
  | benchmarkDetails (details : List String)
  /-- The delta functions, in the order in which they are applied. -/
  | deltaFunctions (names : List String)
  /-- The labeling rules. -/
  | rules (rules : List LabelingRule)
  deriving DecidableEq, Repr

/-- **A request**: every setting of an assessment in the form in which a configuration states it. -/
structure Request where
  /-- The name of the cube to assess. -/
  targetCube : String
  /-- Literals to select by, under the names of their levels. -/
  selection : NameMap String
  /-- The names of the levels to group by. -/
  groupBy : List String
  /-- The aggregation function. -/
  aggregation : String
  /-- The measurement. -/
  measurement : String
  /-- The benchmark details, kind first. -/
  benchmark : List String
  /-- The names of the delta functions. -/
  deltaFunctions : List String
  /-- The labeling rules as rows of five fields. -/
  labels : List (List String)
  deriving DecidableEq, Repr

namespace Settings

/-- The settings before anything is set. -/
def initial : Settings :=
  { targetCube := none
    selection := NameMap.empty
    groupBy := []
    aggregation := none
    measurement := none
    benchmark := none
    deltaFunctions := []
    rules := [] }

instance : Inhabited Settings := ⟨initial⟩

/-- **Change one setting**, leaving the others as they are. -/
def change (s : Settings) : SettingChange → Settings
  | .targetCube name => { s with targetCube := some name }
  | .selection pairs => { s with selection := NameMap.ofList pairs }
  | .groupBy names => { s with groupBy := names }
  | .aggregation function => { s with aggregation := some function }
  | .measurement measurement => { s with measurement := some measurement }
  | .benchmark spec => { s with benchmark := some (.typed spec) }
  | .benchmarkDetails details => { s with benchmark := some (.details details) }
  | .deltaFunctions names => { s with deltaFunctions := names }
  | .rules rules => { s with rules := rules }

end Settings

namespace Request

/-- The changes that load a request whose labels are the given rules. -/
def changes (r : Request) (rules : List LabelingRule) : List SettingChange :=
  [.targetCube r.targetCube, .selection r.selection.entries, .groupBy r.groupBy,
    .aggregation r.aggregation, .measurement r.measurement, .benchmarkDetails r.benchmark,
    .deltaFunctions r.deltaFunctions, .rules rules]

end Request

namespace Settings

/-- **Load every setting from a request**, replacing the values at hand. The labels are read first,
and labels that are no rules refuse the request. -/
def load (r : Request) : EStateM LabelingError Settings Unit := do
  let rules ← liftExcept (LabelingRule.ofRows r.labels)
  modify fun s => (r.changes rules).foldl change s

end Settings

end CubeAssessment
