import CubeAssessment.Assessment.Build

/-! # Configurations

A configuration describes cubes, named assessment requests and logging preferences. It can be
turned into a catalog of its cubes and into the queries of its assessments. -/

namespace CubeAssessment

/-- How log lines are written. -/
inductive LogFormat where
  /-- As text. -/
  | text
  /-- As JSON. -/
  | json
  deriving DecidableEq, Repr

namespace LogFormat

/-- The name of a format. -/
def name : LogFormat → String
  | text => "text"
  | json => "json"

/-- The format of a name, exactly as spelled. -/
def ofName? (name : String) : Option LogFormat :=
  if name = "text" then some text
  else if name = "json" then some json
  else none

end LogFormat

/-- Logging preferences. -/
structure LoggingConfig where
  /-- The filter of events, if one is given. -/
  filter : Option String
  /-- The format of log lines. -/
  format : LogFormat
  deriving DecidableEq, Repr

/-- The default logging preferences: no filter, text. -/
def LoggingConfig.default : LoggingConfig := ⟨none, .text⟩

/-- A dimension as written in a configuration. -/
structure DimensionDefinition where
  /-- The name. -/
  name : String
  /-- The levels of the first hierarchy, short for an entry of `hierarchies`. -/
  levels : List String
  /-- The level names of the other hierarchies. -/
  hierarchies : List (List String)
  deriving DecidableEq, Repr

namespace DimensionDefinition

/-- The level names of all hierarchies: `levels` first, if there are any. -/
def allHierarchies (d : DimensionDefinition) : List (List String) :=
  if d.levels.isEmpty then d.hierarchies else d.levels :: d.hierarchies

/-- **The dimension of a definition.** -/
def toDimension (d : DimensionDefinition) : Except SchemaError Dimension := do
  let hierarchies ← d.allHierarchies.mapM Hierarchy.linear
  Dimension.ofHierarchies d.name hierarchies

end DimensionDefinition

/-- A cube as written in a configuration. -/
structure CubeDefinition where
  /-- The name. -/
  name : String
  /-- The dimensions in order. -/
  dimensions : List DimensionDefinition
  deriving DecidableEq, Repr

namespace CubeDefinition

/-- Make a dimension and add it to a cube. -/
def addDefinition (cube : Cube) (d : DimensionDefinition) : Except SchemaError Cube := do
  let dimension ← d.toDimension
  cube.withDimension dimension

/-- **The cube of a definition.** The dimensions are made and added one by one. -/
def toCube (d : CubeDefinition) : Except SchemaError Cube :=
  d.dimensions.foldlM addDefinition (Cube.bare d.name)

end CubeDefinition

/-- What is wrong with a configuration. -/
inductive ConfigError where
  /-- The text is no configuration. -/
  | malformed
  /-- The definition of a cube is not valid. -/
  | schema (cube : String) (cause : SchemaError)
  /-- Two cubes have the same lower-cased name. -/
  | duplicateCube (cube : String)
  deriving DecidableEq, Repr

namespace ConfigError

/-- The text of a configuration error; what makes a text malformed is not told. -/
def message : ConfigError → String
  | malformed => "Failed to parse config"
  | schema cube cause => s!"Invalid schema for cube '{cube}': {cause.message}"
  | duplicateCube cube => s!"Cube '{cube}' is defined more than once"

/-- The text of a configuration error where it is reported as the failure of an assessment. -/
def assessmentMessage (e : ConfigError) : String := s!"Configuration error: {e.message}"

end ConfigError

/-- **A configuration.** -/
structure Config where
  /-- Logging preferences. -/
  logging : LoggingConfig
  /-- The cubes, in order. -/
  cubes : List CubeDefinition
  /-- The requests by name. -/
  assessments : NameMap Request
  deriving DecidableEq, Repr

namespace Config

/-- The configuration without anything. -/
def default : Config := ⟨LoggingConfig.default, [], NameMap.empty⟩

/-- Add the cubes of definitions to a catalog, up to the first that is not valid or whose name is
taken. -/
def addCubes (catalog : Catalog) : List CubeDefinition → Except ConfigError Catalog
  | [] => .ok catalog
  | d :: ds =>
      match d.toCube with
      | .error cause => .error (.schema d.name cause)
      | .ok cube =>
          match catalog.insert cube with
          | (none, catalog) => addCubes catalog ds
          | (some _, _) => .error (.duplicateCube (Text.lower d.name))

/-- **The catalog of all configured cubes.** -/
def catalog (c : Config) : Except ConfigError Catalog := addCubes Catalog.empty c.cubes

/-- The request of a name. -/
def assessment? (c : Config) (name : String) : Option Request := c.assessments.find? name

/-- Build the query of a request from fresh settings. -/
def buildRequest (catalog : Catalog) (request : Request) : Except BuildError Query :=
  match Settings.load request .initial with
  | .error error _ => .error (.labeling error)
  | .ok () settings => settings.build catalog

/-- The query of each configured assessment, or why it has none, by name. -/
def queries (c : Config) (catalog : Catalog) : List (String × Except BuildError Query) :=
  c.assessments.entries.map fun entry => (entry.1, buildRequest catalog entry.2)

end Config

end CubeAssessment
