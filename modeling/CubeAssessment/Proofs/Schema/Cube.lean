import CubeAssessment.Schema.Cube
import Mathlib.Data.List.Nodup

/-! # Cubes as they are built

A dimension has the hierarchies it is made of (`Dimension.ofHierarchies_eq_ok_iff`). A cube is built
from the cube without dimensions by adding dimensions. A dimension whose name is taken is refused
and leaves the cube as it was (`addDimension_eq_error_iff`), so the dimensions of a built cube have
distinct names (`Built.nodup_names`), and a name determines its dimension
(`Built.dimension_unique`). -/

namespace CubeAssessment

/-! ## Dimensions -/

/-- A dimension of hierarchies has these hierarchies, of which there is one at least. -/
theorem Dimension.ofHierarchies_eq_ok_iff {name : String} {hs : List Hierarchy} {d : Dimension} :
    ofHierarchies name hs = .ok d ↔ d.name = name ∧ d.hierarchies = hs := by
  cases hs with
  | nil => exact iff_of_false nofun fun h => List.cons_ne_nil _ _ h.2
  | cons primary alternates =>
    rw [ofHierarchies, Except.ok.injEq]
    constructor
    · rintro rfl
      exact ⟨rfl, rfl⟩
    · rintro ⟨rfl, hhierarchies⟩
      cases d
      obtain ⟨rfl, rfl⟩ := List.cons.inj hhierarchies
      rfl

/-- No dimension is made of no hierarchies. -/
theorem Dimension.ofHierarchies_eq_error_iff {name : String} {hs : List Hierarchy}
    {e : SchemaError} : ofHierarchies name hs = .error e ↔ hs = [] ∧ e = .noHierarchies name := by
  cases hs with
  | nil => rw [ofHierarchies, Except.error.injEq, and_iff_right rfl, eq_comm]
  | cons primary alternates => exact iff_of_false nofun nofun

namespace Cube

/-! ## Cubes -/

/-- **A cube that can be built**: bare, or by adding a dimension to one that can be built. -/
inductive Built : Cube → Prop
  /-- A cube without dimensions. -/
  | bare (name : String) : Built (bare name)
  /-- A cube that a dimension was added to. -/
  | add {c c' : Cube} {d : Dimension} (hbuilt : Built c) (hadd : addDimension d c = .ok () c') :
      Built c'

/-- A look-up finds nothing exactly when the name is free. -/
theorem dimension?_eq_none_iff {c : Cube} {name : String} :
    c.dimension? name = none ↔ ∀ d ∈ c.dimensions, d.name ≠ name := by
  simp [dimension?]

/-- What starts with a look at the state runs on with the state it sees. -/
theorem get_bind_apply {ε σ α : Type} (f : σ → EStateM ε σ α) (s : σ) :
    ((get : EStateM ε σ σ) >>= f) s = f s s :=
  rfl

/-- **A dimension can be added or is refused**: it is put last when its name is free, and otherwise
the cube stays as it was. -/
theorem addDimension_eq (c : Cube) (d : Dimension) : addDimension d c =
    if ∀ other ∈ c.dimensions, other.name ≠ d.name then
      .ok () { c with dimensions := c.dimensions ++ [d] }
    else .error (.duplicateDimension c.name d.name) c := by
  rw [addDimension, get_bind_apply]
  by_cases hfree : ∀ other ∈ c.dimensions, other.name ≠ d.name
  · rw [if_pos hfree, dimension?_eq_none_iff.mpr hfree]
    rfl
  · rw [if_neg hfree]
    cases hfind : c.dimension? d.name with
    | none => exact absurd (dimension?_eq_none_iff.mp hfind) hfree
    | some other => rfl

/-- **Adding a dimension puts it last**, and succeeds exactly when its name is free. -/
theorem addDimension_eq_ok_iff {c c' : Cube} {d : Dimension} : addDimension d c = .ok () c' ↔
    (∀ e ∈ c.dimensions, e.name ≠ d.name) ∧ c' = { c with dimensions := c.dimensions ++ [d] } := by
  rw [addDimension_eq]
  split
  · next hfree => rw [and_iff_right hfree, EStateM.Result.ok.injEq, and_iff_right rfl, eq_comm]
  · next htaken => exact iff_of_false nofun fun h => htaken h.1

/-- **A dimension is refused exactly when its name is taken**, and leaves the cube as it was. -/
theorem addDimension_eq_error_iff {c c' : Cube} {d : Dimension} {e : SchemaError} :
    addDimension d c = .error e c' ↔ (∃ other ∈ c.dimensions, other.name = d.name) ∧
      e = .duplicateDimension c.name d.name ∧ c' = c := by
  rw [addDimension_eq]
  split
  · next hfree =>
    exact iff_of_false nofun fun ⟨⟨other, hother, hname⟩, _⟩ => hfree other hother hname
  · next htaken =>
    push Not at htaken
    rw [and_iff_right htaken, EStateM.Result.error.injEq, eq_comm, eq_comm (a := c)]

/-- A cube has a dimension more once that is added. -/
theorem withDimension_eq_ok_iff {c c' : Cube} {d : Dimension} :
    c.withDimension d = .ok c' ↔ addDimension d c = .ok () c' := by
  rw [withDimension]
  cases addDimension d c with
  | ok _ grown => simp
  | error e kept => exact iff_of_false nofun nofun

/-- A cube has no dimension more when that is refused. -/
theorem withDimension_eq_error_iff {c : Cube} {d : Dimension} {e : SchemaError} :
    c.withDimension d = .error e ↔ addDimension d c = .error e c := by
  rw [withDimension]
  cases hadd : addDimension d c with
  | ok _ grown => exact iff_of_false nofun nofun
  | error e' kept =>
    obtain ⟨-, -, rfl⟩ := addDimension_eq_error_iff.mp hadd
    simp

/-- **The dimensions of a built cube have distinct names.** -/
theorem Built.nodup_names {c : Cube} (h : c.Built) :
    (c.dimensions.map Dimension.name).Nodup := by
  induction h with
  | bare name => exact List.nodup_nil
  | @add c c' d _ hadd ih =>
      obtain ⟨hfree, rfl⟩ := addDimension_eq_ok_iff.mp hadd
      have hnew : d.name ∉ c.dimensions.map Dimension.name := by
        intro hmem
        obtain ⟨e, he, hname⟩ := List.mem_map.mp hmem
        exact hfree e he hname
      rw [List.map_append, List.map_singleton, ← List.concat_eq_append, List.nodup_concat]
      exact ⟨hnew, ih⟩

/-- A name determines its dimension in a built cube. -/
theorem Built.dimension_unique {c : Cube} (h : c.Built) {d e : Dimension}
    (hd : d ∈ c.dimensions) (he : e ∈ c.dimensions) (hname : d.name = e.name) : d = e :=
  List.inj_on_of_nodup_map h.nodup_names hd he hname

/-- **A look-up finds the dimension of the name**, if the cube has one. -/
theorem Built.dimension?_eq_some_iff {c : Cube} (h : c.Built) {name : String} {d : Dimension} :
    c.dimension? name = some d ↔ d ∈ c.dimensions ∧ d.name = name := by
  constructor
  · intro hfind
    exact ⟨List.mem_of_find?_eq_some hfind, by simpa using List.find?_some hfind⟩
  · rintro ⟨hd, hname⟩
    cases hfind : c.dimension? name with
    | none => exact absurd hname (by simpa using List.find?_eq_none.mp hfind d hd)
    | some other =>
      have hother : other.name = name := by simpa using List.find?_some hfind
      rw [h.dimension_unique (List.mem_of_find?_eq_some hfind) hd (hother.trans hname.symm)]

end Cube

end CubeAssessment
