/-! # Level references

A resolved level is named by its dimension and its index. The reference is written
`<dimension>.lvl<index>`, and references are ordered by that text, so `date.lvl10` stands before
`date.lvl2`: clauses, and everything that is compared by clause text, rely on exactly this order. -/

namespace CubeAssessment

/-- **A reference to a level**: the level of an index in the hierarchies of a dimension. -/
structure LevelRef where
  /-- The name of the dimension. -/
  dimension : String
  /-- The index, 0 for the finest grain. -/
  index : Nat
  deriving DecidableEq, Repr

namespace LevelRef

/-- The text of a reference. -/
def text (r : LevelRef) : String := r.dimension ++ ".lvl" ++ toString r.index

instance : ToString LevelRef := ⟨text⟩

/-- References are ordered by their text, code point by code point. -/
instance : LT LevelRef := ⟨fun a b => a.text < b.text⟩

instance : DecidableLT LevelRef := fun a b => inferInstanceAs (Decidable (a.text < b.text))

/-- Compare two references by their text. -/
def compareText (a b : LevelRef) : Ordering := compareOfLessAndEq a.text b.text

/-- Sort references by their text; references with one text keep their order. -/
def sort (refs : List LevelRef) : List LevelRef :=
  refs.mergeSort fun a b => a.compareText b != .gt

end LevelRef

end CubeAssessment
