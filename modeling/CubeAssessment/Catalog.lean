import CubeAssessment.Collections.NameMap
import CubeAssessment.Schema.Cube
import CubeAssessment.Text.LowerCase

/-! # Catalogs

A catalog holds cubes and finds them by name without regard to case: it is a map from lower-cased
names to cubes. -/

namespace CubeAssessment

/-- **A catalog of cubes.** -/
structure Catalog where
  /-- The cubes under their lower-cased names. -/
  cubes : NameMap Cube
  deriving DecidableEq, Repr

namespace Catalog

/-- The catalog without cubes. -/
def empty : Catalog := ⟨NameMap.empty⟩

/-- The cube of a name. -/
def find? (c : Catalog) (name : String) : Option Cube := c.cubes.find? (Text.lower name)

/-- **Hold a cube**, in place of the one of the same name if there is one. The answer is the cube
replaced, if any, and the new catalog. -/
def insert (c : Catalog) (cube : Cube) : Option Cube × Catalog :=
  (c.find? cube.name, ⟨c.cubes.insert (Text.lower cube.name) cube⟩)

/-- Hold cubes one after the other. -/
def insertAll (c : Catalog) (cubes : List Cube) : Catalog :=
  cubes.foldl (fun c cube => (c.insert cube).2) c

/-- The catalog of a list of cubes; of several with the same name the last counts. -/
def ofList (cubes : List Cube) : Catalog := empty.insertAll cubes

/-- The lower-cased names of the cubes, ascending. -/
def names (c : Catalog) : List String := c.cubes.names

/-- The number of cubes. -/
def size (c : Catalog) : Nat := c.cubes.size

end Catalog

end CubeAssessment
