import CubeAssessment.Configuration.Model
import CubeAssessment.Proofs.Collections.Collector
import CubeAssessment.Proofs.Schema.Cube
import CubeAssessment.Proofs.Schema.Hierarchy

/-! # Dimensions and cubes as defined

A definition of a dimension makes the dimension it describes (`toDimension_eq_ok_iff`), or fails
with its defect (`toDimension_eq_error_iff`). The definition of a cube collects what those of its
dimensions make, so it makes the cube it describes when they have distinct names
(`toCube_eq_ok_iff`), and otherwise fails with the defect of the first dimension that has one
(`toCube_eq_error_iff`). -/

namespace CubeAssessment

/-! ## Dimensions -/

namespace DimensionDefinition

variable {d : DimensionDefinition}

/-- **A definition of a dimension is valid**: it writes a hierarchy, in `levels` or in
`hierarchies`, and none of `hierarchies` is empty. -/
def Valid (d : DimensionDefinition) : Prop :=
  (d.levels ≠ [] ∨ d.hierarchies ≠ []) ∧ [] ∉ d.hierarchies

/-- **What is wrong with a definition of a dimension.** -/
inductive Defect (d : DimensionDefinition) : SchemaError → Prop
  /-- One of `hierarchies` is empty. -/
  | emptyHierarchy (hempty : [] ∈ d.hierarchies) : Defect d .emptyHierarchy
  /-- No hierarchy is written. -/
  | noHierarchies (hlevels : d.levels = []) (hhierarchies : d.hierarchies = []) :
      Defect d (.noHierarchies d.name)

/-- **A definition describes a dimension**: of its name, and with the hierarchies written, `levels`
first unless it is empty, whose levels are counted off in order. -/
structure Describes (d : DimensionDefinition) (made : Dimension) : Prop where
  /-- The dimension has the name written. -/
  name_eq : made.name = d.name
  /-- The dimension has the hierarchies written. -/
  hierarchies : List.Forall₂
    (fun names h => h.levels = names.mapIdx fun index name => ⟨index, name⟩)
    ((if d.levels = [] then [] else [d.levels]) ++ d.hierarchies) made.hierarchies

/-- The rows written are `levels`, unless it is empty, and then `hierarchies`. -/
theorem allHierarchies_eq (d : DimensionDefinition) :
    d.allHierarchies = (if d.levels = [] then [] else [d.levels]) ++ d.hierarchies := by
  unfold allHierarchies
  cases d.levels with
  | nil => rfl
  | cons finest coarser => rfl

/-- A row written is empty exactly when one of `hierarchies` is. -/
theorem nil_mem_allHierarchies_iff : [] ∈ d.allHierarchies ↔ [] ∈ d.hierarchies := by
  rw [allHierarchies_eq, List.mem_append]
  refine or_iff_right fun hmem => ?_
  by_cases hlevels : d.levels = []
  · rw [if_pos hlevels] at hmem
    cases hmem
  · rw [if_neg hlevels, List.mem_singleton] at hmem
    exact hlevels hmem.symm

/-- No rows are written exactly when `levels` and `hierarchies` are both empty. -/
theorem allHierarchies_eq_nil_iff :
    d.allHierarchies = [] ↔ d.levels = [] ∧ d.hierarchies = [] := by
  rw [allHierarchies_eq, List.append_eq_nil_iff]
  simp

/-- **A definition makes the dimension it describes.** -/
theorem toDimension_eq_ok_iff {made : Dimension} : d.toDimension = .ok made ↔ d.Describes made := by
  simp only [toDimension, bind_eq_ok_iff, mapM_eq_ok_iff, Hierarchy.linear_eq_ok_iff_levels,
    Dimension.ofHierarchies_eq_ok_iff, allHierarchies_eq]
  constructor
  · rintro ⟨hs, hrel, hname, rfl⟩
    exact ⟨hname, hrel⟩
  · rintro ⟨hname, hrel⟩
    exact ⟨made.hierarchies, hrel, hname, rfl⟩

/-- **A definition fails with its defect.** -/
theorem toDimension_eq_error_iff {e : SchemaError} : d.toDimension = .error e ↔ d.Defect e := by
  simp only [toDimension, bind_eq_error_iff, Hierarchy.mapM_linear_eq_error_iff,
    nil_mem_allHierarchies_iff, Dimension.ofHierarchies_eq_error_iff]
  constructor
  · rintro (⟨hempty, rfl⟩ | ⟨hs, hmade, rfl, rfl⟩)
    · exact .emptyHierarchy hempty
    · rw [mapM_eq_ok_iff, List.forall₂_nil_right_iff, allHierarchies_eq_nil_iff] at hmade
      exact .noHierarchies hmade.1 hmade.2
  · rintro (hempty | ⟨hlevels, hhierarchies⟩)
    · exact Or.inl ⟨hempty, rfl⟩
    · refine Or.inr ⟨[], ?_, rfl, rfl⟩
      rw [allHierarchies_eq_nil_iff.mpr ⟨hlevels, hhierarchies⟩]
      rfl

/-- **Exactly the valid definitions make a dimension.** -/
theorem exists_toDimension_eq_ok_iff : (∃ made, d.toDimension = .ok made) ↔ d.Valid := by
  simp only [exists_eq_ok_iff, ne_eq, toDimension_eq_error_iff]
  constructor
  · intro hnone
    refine ⟨?_, fun hempty => hnone _ (.emptyHierarchy hempty)⟩
    by_contra! hboth
    exact hnone _ (.noHierarchies hboth.1 hboth.2)
  · rintro ⟨hwritten, hnonempty⟩ e (hempty | ⟨hlevels, hhierarchies⟩)
    · exact hnonempty hempty
    · exact hwritten.elim (fun h => h hlevels) fun h => h hhierarchies

end DimensionDefinition

/-! ## Cubes -/

namespace CubeDefinition

variable {d : CubeDefinition}

/-- **A definition of a cube is valid**: those of its dimensions are, and have distinct names. -/
def Valid (d : CubeDefinition) : Prop :=
  (∀ x ∈ d.dimensions, x.Valid) ∧ (d.dimensions.map DimensionDefinition.name).Nodup

/-- **What is wrong with a definition of a cube**: what is wrong with the first dimension that is
not valid or repeats a name. -/
inductive Defect (d : CubeDefinition) : SchemaError → Prop
  /-- The dimension is not valid. -/
  | dimension {front back : List DimensionDefinition} {x : DimensionDefinition} {e : SchemaError}
      (hsplit : d.dimensions = front ++ x :: back) (hfront : Valid ⟨d.name, front⟩)
      (hdefect : x.Defect e) : Defect d e
  /-- The dimension is valid and one before it has its name. -/
  | duplicateDimension {front back : List DimensionDefinition} {x : DimensionDefinition}
      (hsplit : d.dimensions = front ++ x :: back) (hfront : Valid ⟨d.name, front⟩)
      (hvalid : x.Valid) (htaken : ∃ earlier ∈ front, earlier.name = x.name) :
      Defect d (.duplicateDimension d.name x.name)

/-- **A definition describes a cube**: of its name, and with the dimensions written, in order. -/
structure Describes (d : CubeDefinition) (cube : Cube) : Prop where
  /-- The cube has the name written. -/
  name_eq : cube.name = d.name
  /-- The cube has the dimensions written. -/
  dimensions : List.Forall₂ DimensionDefinition.Describes d.dimensions cube.dimensions

/-- **The dimensions of a cube are collected** under their names. -/
def collector (name : String) :
    Collector SchemaError SchemaError Cube DimensionDefinition Dimension where
  step := addDefinition
  build dimensions := ⟨name, dimensions⟩
  make := DimensionDefinition.toDimension
  key := Dimension.name
  keyOf := DimensionDefinition.name
  invalid _ cause := cause
  taken x := .duplicateDimension name x.name
  key_eq x made hmake := (DimensionDefinition.toDimension_eq_ok_iff.mp hmake).name_eq
  step_eq dimensions x := by
    unfold addDefinition
    cases hmake : x.toDimension with
    | error e => rfl
    | ok made =>
      have hname : made.name = x.name :=
        (DimensionDefinition.toDimension_eq_ok_iff.mp hmake).name_eq
      change Cube.withDimension ⟨name, dimensions⟩ made = _
      dsimp only
      split
      · next htaken =>
        rw [Cube.withDimension_eq_error_iff, Cube.addDimension_eq_error_iff, hname]
        exact ⟨List.mem_map.mp (hname ▸ htaken), rfl, rfl⟩
      · next hfree =>
        rw [Cube.withDimension_eq_ok_iff, Cube.addDimension_eq_ok_iff]
        exact ⟨fun other hother hname => hfree (List.mem_map.mpr ⟨other, hother, hname⟩), rfl⟩

/-- The cube of a definition is collected from those of its dimensions. -/
theorem toCube_eq_collect (d : CubeDefinition) :
    d.toCube = (collector d.name).collect d.dimensions := rfl

/-- Definitions of dimensions are a sound row exactly when they are those of a valid definition. -/
theorem sound_iff_valid {name : String} {dimensions : List DimensionDefinition} :
    (collector name).Sound dimensions ↔ Valid ⟨name, dimensions⟩ := by
  simp only [Collector.Sound, collector, DimensionDefinition.exists_toDimension_eq_ok_iff, Valid]

/-- **A definition whose dimensions have distinct names makes the cube it describes.** -/
theorem toCube_eq_ok_iff {cube : Cube} : d.toCube = .ok cube ↔
    (d.dimensions.map DimensionDefinition.name).Nodup ∧ d.Describes cube := by
  rw [toCube_eq_collect, Collector.collect_eq_ok_iff]
  simp only [collector, DimensionDefinition.toDimension_eq_ok_iff]
  refine and_congr_right fun _ => ⟨?_, ?_⟩
  · rintro ⟨dimensions, hmade, rfl⟩
    exact ⟨rfl, hmade⟩
  · rintro ⟨hname, hmade⟩
    exact ⟨cube.dimensions, hmade, by rw [← hname]⟩

/-- **Exactly the valid definitions make a cube.** -/
theorem exists_toCube_eq_ok_iff : (∃ cube, d.toCube = .ok cube) ↔ d.Valid :=
  Collector.exists_collect_eq_ok_iff.trans sound_iff_valid

/-- **A definition fails with its defect.** -/
theorem toCube_eq_error_iff {e : SchemaError} : d.toCube = .error e ↔ d.Defect e := by
  rw [toCube_eq_collect, Collector.collect_eq_error_iff]
  simp only [sound_iff_valid]
  simp only [collector, DimensionDefinition.toDimension_eq_error_iff, exists_eq_right',
    DimensionDefinition.exists_toDimension_eq_ok_iff, List.mem_map]
  constructor
  · rintro ⟨front, x, back, hsplit, hfront, hdefect | ⟨hvalid, htaken, rfl⟩⟩
    · exact .dimension hsplit hfront hdefect
    · exact .duplicateDimension hsplit hfront hvalid htaken
  · rintro (⟨hsplit, hfront, hdefect⟩ | ⟨hsplit, hfront, hvalid, htaken⟩)
    · exact ⟨_, _, _, hsplit, hfront, Or.inl hdefect⟩
    · exact ⟨_, _, _, hsplit, hfront, Or.inr ⟨hvalid, htaken, rfl⟩⟩

end CubeDefinition

end CubeAssessment
