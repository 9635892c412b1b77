/-! # Hierarchies

A hierarchy is a drill path of a dimension: its levels from the finest grain, index 0, to the
coarsest. It is a non-empty row of level names in which a level's index is its position, so every
value of the type is a well-formed hierarchy and the finest level always exists. -/

namespace CubeAssessment

/-- A level as it is given: its index and its name. -/
structure Level where
  /-- The position counted from the finest grain. -/
  index : Nat
  /-- The name; names may repeat, within a hierarchy too. -/
  name : String
  deriving DecidableEq, Repr

/-- What is wrong with a schema. -/
inductive SchemaError where
  /-- A hierarchy without levels. -/
  | emptyHierarchy
  /-- The level in place `expected` of the sorted levels has the index `found`. -/
  | nonContiguousLevels (expected found : Nat)
  /-- A dimension without hierarchies. -/
  | noHierarchies (dimension : String)
  /-- A second dimension of one name in a cube. -/
  | duplicateDimension (cube dimension : String)
  deriving DecidableEq, Repr

namespace SchemaError

/-- The text of a schema error. -/
def message : SchemaError → String
  | emptyHierarchy => "Hierarchy has no levels"
  | nonContiguousLevels expected found =>
      s!"Level indices must be contiguous from 0: expected {expected}, found {found}"
  | noHierarchies dimension => s!"Dimension '{dimension}' has no hierarchies"
  | duplicateDimension cube dimension => s!"Duplicate dimension '{dimension}' in cube '{cube}'"

end SchemaError

/-- **A hierarchy**: its level names, finest first. -/
structure Hierarchy where
  /-- The name of the level of index 0. -/
  finest : String
  /-- The names of the levels of index 1, 2, …. -/
  coarser : List String
  deriving DecidableEq, Repr

namespace Hierarchy

/-- The level names, finest first. -/
def names (h : Hierarchy) : List String := h.finest :: h.coarser

/-- The levels with their indices, finest first. -/
def levels (h : Hierarchy) : List Level := h.names.mapIdx fun index name => ⟨index, name⟩

/-- A hierarchy has levels. -/
theorem levels_ne_nil (h : Hierarchy) : h.levels ≠ [] := by
  simp [levels, names]

/-- The finest level, the first of all. -/
def finestLevel (h : Hierarchy) : Level := h.levels.head h.levels_ne_nil

/-- **The finest level has index 0**, and the name the hierarchy begins with. -/
theorem finestLevel_eq (h : Hierarchy) : h.finestLevel = ⟨0, h.finest⟩ := by
  simp [finestLevel, levels, names]

/-- The number of levels. -/
def length (h : Hierarchy) : Nat := h.names.length

/-- The name of the level of an index. -/
def nameAt? (h : Hierarchy) (index : Nat) : Option String := h.names[index]?

/-- **A hierarchy of level names in order**, finest first. -/
def linear : List String → Except SchemaError Hierarchy
  | [] => .error .emptyHierarchy
  | finest :: coarser => .ok ⟨finest, coarser⟩

/-- The first place, counted from `expected`, at which a list of levels does not have the index of
that place: the place and the index found there. -/
def firstMisplaced (expected : Nat) : List Level → Option (Nat × Nat)
  | [] => none
  | level :: rest =>
      if level.index = expected then firstMisplaced (expected + 1) rest
      else some (expected, level.index)

/-- **A hierarchy of explicitly indexed levels**, given in any order. Once sorted, each level's
index has to be its place. -/
def ofLevels (levels : List Level) : Except SchemaError Hierarchy :=
  let sorted := levels.mergeSort fun a b => decide (a.index ≤ b.index)
  match firstMisplaced 0 sorted with
  | some (expected, found) => .error (.nonContiguousLevels expected found)
  | none => linear (sorted.map (·.name))

end Hierarchy

end CubeAssessment
