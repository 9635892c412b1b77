import CubeAssessment.Collections.Ascending
import CubeAssessment.Schema.Cube
import CubeAssessment.Schema.LevelRef

/-! # Resolving level names

A bare name denotes every level of that name, in any hierarchy of any dimension, and the finest
level of a dimension of that name. Matching is exact. A name resolves when the levels it denotes
have one reference between them; the same index reached through several hierarchies of a dimension
is one reference. -/

namespace CubeAssessment

/-- Why a name does not resolve. -/
inductive ResolveError where
  /-- The name denotes nothing. -/
  | notFound (name : String)
  /-- The name denotes several levels, listed by their references in ascending order. -/
  | ambiguous (name : String) (candidates : List LevelRef)
  deriving DecidableEq, Repr

namespace ResolveError

/-- The name that does not resolve. -/
def name : ResolveError → String
  | notFound name => name
  | ambiguous name _ => name

/-- The text of a resolution error. -/
def message : ResolveError → String
  | notFound name => s!"No level named '{name}'"
  | ambiguous name candidates =>
      let listed := ", ".intercalate (candidates.map LevelRef.text)
      s!"Level name '{name}' is ambiguous: {listed}"

end ResolveError

namespace Hierarchy

/-- The indices at which a hierarchy has a level of a name. -/
def indicesOf (h : Hierarchy) (name : String) : List Nat :=
  (h.levels.filter (·.name == name)).map (·.index)

end Hierarchy

namespace Dimension

/-- The references a name can stand for in one dimension. A dimension's own name stands for the
finest level of its primary hierarchy. -/
def refsNamed (d : Dimension) (name : String) : List LevelRef :=
  let own := if d.name = name then [⟨d.name, d.primary.finestLevel.index⟩] else []
  own ++ d.hierarchies.flatMap fun h => (h.indicesOf name).map fun index => ⟨d.name, index⟩

end Dimension

namespace Cube

/-- The references a name can stand for in a cube, each once and in ascending order. -/
def refsNamed (c : Cube) (name : String) : List LevelRef :=
  ascending (c.dimensions.flatMap fun d => d.refsNamed name)

/-- **Resolve a name to the one level it denotes.** -/
def resolve (c : Cube) (name : String) : Except ResolveError LevelRef :=
  match c.refsNamed name with
  | [] => .error (.notFound name)
  | [ref] => .ok ref
  | candidates => .error (.ambiguous name candidates)

end Cube

end CubeAssessment
