import CubeAssessment.Schema.Cube

/-! # Forms of dimensions

A dimension is asked for by a form: its name and the levels of its hierarchies, with their indices
or counted off. A form offered to a cube makes a dimension, which is then added; what cannot be made
or added is refused. -/

namespace CubeAssessment

/-- The levels of a hierarchy that is asked for. -/
inductive HierarchyForm where
  /-- Levels with their indices, in any order. -/
  | indexed (levels : List Level)
  /-- The names of the levels in order, finest first. -/
  | linear (names : List String)
  deriving DecidableEq, Repr

/-- Make the hierarchy. -/
def HierarchyForm.make : HierarchyForm → Except SchemaError Hierarchy
  | indexed levels => Hierarchy.ofLevels levels
  | linear names => Hierarchy.linear names

/-- A dimension that is asked for. -/
inductive DimensionForm where
  /-- One with a single hierarchy, its levels named in order. -/
  | linear (name : String) (levelNames : List String)
  /-- One with the hierarchies of several forms. -/
  | ofHierarchies (name : String) (forms : List HierarchyForm)
  deriving DecidableEq, Repr

/-- Make the dimension, its hierarchies first. -/
def DimensionForm.make : DimensionForm → Except SchemaError Dimension
  | linear name levelNames => Dimension.linear name levelNames
  | ofHierarchies name forms => do
      let hierarchies ← forms.mapM HierarchyForm.make
      Dimension.ofHierarchies name hierarchies

namespace Cube

/-- Make the dimension of a form and add it to the cube at hand. -/
def addForm (form : DimensionForm) : EStateM SchemaError Cube Unit := do
  let d ← liftExcept form.make
  addDimension d

/-- **Offer a dimension to a cube.** The answer is the cube afterwards, and why the dimension is
refused if it is. -/
def offer (c : Cube) (form : DimensionForm) : Cube × Option SchemaError :=
  match addForm form c with
  | .ok () grown => (grown, none)
  | .error e kept => (kept, some e)

/-- Offer dimensions one after the other, collecting the answers. -/
def offerAll (c : Cube) : List DimensionForm → Cube × List (Option SchemaError)
  | [] => (c, [])
  | form :: rest =>
      let (next, answer) := c.offer form
      let (last, answers) := next.offerAll rest
      (last, answer :: answers)

end Cube

end CubeAssessment
