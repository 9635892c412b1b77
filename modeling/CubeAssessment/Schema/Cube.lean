import CubeAssessment.Schema.Hierarchy

/-! # Dimensions and cubes

A dimension is a name with one or more hierarchies, a cube a name with dimensions of distinct
names. Cubes grow one dimension at a time from the cube without dimensions, and a dimension whose
name is taken is refused. Adding is a program on the state of a cube, so it says what the cube is
afterwards whether the dimension was added or refused. -/

namespace CubeAssessment

/-- **A dimension**: one categorical axis of a cube, with its drill paths. -/
structure Dimension where
  /-- The name, unique within a cube. -/
  name : String
  /-- The first hierarchy. -/
  primary : Hierarchy
  /-- The alternate hierarchies. -/
  alternates : List Hierarchy
  deriving DecidableEq, Repr

namespace Dimension

/-- The hierarchies, the primary one first. -/
def hierarchies (d : Dimension) : List Hierarchy := d.primary :: d.alternates

/-- Whether the dimension has exactly one hierarchy. -/
def isLinear (d : Dimension) : Bool := d.alternates.isEmpty

/-- A dimension of a list of hierarchies, which must not be empty. -/
def ofHierarchies (name : String) : List Hierarchy → Except SchemaError Dimension
  | [] => .error (.noHierarchies name)
  | primary :: alternates => .ok ⟨name, primary, alternates⟩

/-- A dimension with the single hierarchy of the given level names, finest first. -/
def linear (name : String) (levelNames : List String) : Except SchemaError Dimension := do
  let hierarchy ← Hierarchy.linear levelNames
  ofHierarchies name [hierarchy]

end Dimension

/-- **A cube**: the schema of a multidimensional dataset. -/
structure Cube where
  /-- The name as given. -/
  name : String
  /-- The dimensions in the order in which they were added. -/
  dimensions : List Dimension
  deriving DecidableEq, Repr

namespace Cube

/-- The cube without dimensions. -/
def bare (name : String) : Cube := ⟨name, []⟩

/-- The dimension of a name, exactly as spelled. -/
def dimension? (c : Cube) (name : String) : Option Dimension :=
  c.dimensions.find? (·.name == name)

/-- **Add a dimension** to the cube at hand, unless that has one of the same name. -/
def addDimension (d : Dimension) : EStateM SchemaError Cube Unit := do
  let c ← get
  match c.dimension? d.name with
  | some _ => throw (.duplicateDimension c.name d.name)
  | none => set { c with dimensions := c.dimensions ++ [d] }

/-- The cube with a dimension more, if that can be added. -/
def withDimension (c : Cube) (d : Dimension) : Except SchemaError Cube :=
  match addDimension d c with
  | .ok () grown => .ok grown
  | .error e _ => .error e

end Cube

end CubeAssessment
