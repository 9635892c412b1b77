import CubeAssessment.Configuration.Model
import CubeAssessment.Document.Decode
import CubeAssessment.Toml.Grammar

/-! # Reading configurations

The record forms of levels, labeling rules, requests and configurations in document values, and the
reading of a configuration text. -/

namespace CubeAssessment

open Document

/-- A level as a record. -/
def Level.decode (surplus : Surplus) (value : Value) : Option Level := do
  let fields ← recordFields surplus ["index", "name"] value
  let index ← requiredField fields "index" decodeIndex
  let name ← requiredField fields "name" decodeText
  return { index, name }

/-- A labeling rule as a record. -/
def LabelingRule.decode (surplus : Surplus) (value : Value) : Option LabelingRule := do
  let fields ← recordFields surplus ["left", "lower", "upper", "right", "label"] value
  let left ← requiredField fields "left" decodeText
  let lower ← requiredField fields "lower" decodeText
  let upper ← requiredField fields "upper" decodeText
  let right ← requiredField fields "right" decodeText
  let label ← requiredField fields "label" decodeText
  return { left, lower, upper, right, label }

/-- **A request as a record.** Selection, group-by, delta functions and labels may be left out. -/
def Request.decode (surplus : Surplus) (value : Value) : Option Request := do
  let fields ← recordFields surplus
    ["target_cube", "selection", "group_by", "aggregation", "measurement", "benchmark",
      "delta_functions", "labels"] value
  let targetCube ← requiredField fields "target_cube" decodeText
  let selection ← optionalField fields "selection" NameMap.empty (decodeMap decodeText)
  let groupBy ← optionalField fields "group_by" [] decodeTexts
  let aggregation ← requiredField fields "aggregation" decodeText
  let measurement ← requiredField fields "measurement" decodeText
  let benchmark ← requiredField fields "benchmark" decodeTexts
  let deltaFunctions ← optionalField fields "delta_functions" [] decodeTexts
  let labels ← optionalField fields "labels" [] (decodeList decodeTexts)
  return {
    targetCube, selection, groupBy, aggregation, measurement, benchmark, deltaFunctions
    labels : Request
  }

/-- Whether a value is a table or a list without content, which can stand beside the name of a
format. -/
def isEmptyContent : Value → Bool
  | .table _ entries => entries.isEmpty
  | .list _ items => items.isEmpty
  | _ => false

/-- A log format: its name, or a table with its name as the only key and nothing under it. -/
def LogFormat.decode : Value → Option LogFormat
  | .text name => LogFormat.ofName? name
  | .table _ [(name, content)] => if isEmptyContent content then LogFormat.ofName? name else none
  | _ => none

/-- Logging preferences as a record. -/
def LoggingConfig.decode (value : Value) : Option LoggingConfig := do
  let fields ← recordFields .ignored ["filter", "format"] value
  let filter ← optionalField fields "filter" none fun v => (decodeText v).map some
  let format ← optionalField fields "format" .text LogFormat.decode
  return { filter, format }

/-- A dimension definition as a record. -/
def DimensionDefinition.decode (value : Value) : Option DimensionDefinition := do
  let fields ← recordFields .ignored ["name", "levels", "hierarchies"] value
  let name ← requiredField fields "name" decodeText
  let levels ← optionalField fields "levels" [] decodeTexts
  let hierarchies ← optionalField fields "hierarchies" [] (decodeList decodeTexts)
  return { name, levels, hierarchies }

/-- A cube definition as a record. -/
def CubeDefinition.decode (value : Value) : Option CubeDefinition := do
  let fields ← recordFields .ignored ["name", "dimensions"] value
  let name ← requiredField fields "name" decodeText
  let dimensions ← optionalField fields "dimensions" [] (decodeList DimensionDefinition.decode)
  return { name, dimensions }

namespace Config

/-- A configuration as a record. -/
def decode (value : Value) : Option Config := do
  let fields ← recordFields .ignored ["logging", "cubes", "assessments"] value
  let logging ← optionalField fields "logging" LoggingConfig.default LoggingConfig.decode
  let cubes ← optionalField fields "cubes" [] (decodeList CubeDefinition.decode)
  let assessments ← optionalField fields "assessments" NameMap.empty
    (decodeMap (Request.decode .ignored))
  return { logging, cubes, assessments }

/-- **Read a configuration text**: a TOML document that has the form of a configuration. -/
def parse (text : String) : Except ConfigError Config :=
  match (Toml.parse text).bind decode with
  | some config => .ok config
  | none => .error .malformed

end Config

end CubeAssessment
