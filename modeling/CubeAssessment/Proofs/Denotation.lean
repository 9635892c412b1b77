import CubeAssessment.Proofs.Collections.Ascending
import CubeAssessment.Proofs.Collections.Traversal
import CubeAssessment.Proofs.Schema.LevelRef
import CubeAssessment.Resolution
import Mathlib.Data.Set.Subsingleton

/-! # What a name denotes

`Cube.denoted` is the set of levels a name denotes in a cube, said without any order. The references
that are searched are its members in ascending order (`refsNamed_eq_iff`), so a name resolves
exactly when it denotes one level, and an ambiguous name is reported with all it denotes. -/

namespace CubeAssessment

namespace Hierarchy

/-- A hierarchy has a level at an index when its name stands there. -/
theorem mem_levels_iff {h : Hierarchy} {level : Level} :
    level ∈ h.levels ↔ h.names[level.index]? = some level.name := by
  rw [levels, List.mem_iff_getElem?]
  constructor
  · rintro ⟨k, hk⟩
    rw [List.getElem?_mapIdx] at hk
    obtain ⟨name, hname, rfl⟩ := Option.map_eq_some_iff.mp hk
    exact hname
  · intro hname
    refine ⟨level.index, ?_⟩
    rw [List.getElem?_mapIdx, hname, Option.map_some]

/-- `index ∈ h.indicesOf name` when `h` has a level of that name at that index. -/
theorem mem_indicesOf_iff {h : Hierarchy} {name : String} {index : Nat} :
    index ∈ h.indicesOf name ↔ ⟨index, name⟩ ∈ h.levels := by
  rw [indicesOf, List.mem_map]
  constructor
  · rintro ⟨⟨_, _⟩, hlevel, rfl⟩
    obtain ⟨hmem, hname⟩ := List.mem_filter.mp hlevel
    rw [← eq_of_beq hname]
    exact hmem
  · intro hmem
    exact ⟨_, List.mem_filter.mpr ⟨hmem, beq_self_eq_true name⟩, rfl⟩

end Hierarchy

namespace Cube

/-! ## The denoted levels -/

/-- **The levels a name denotes in a cube**: in the dimension of that name the finest level, and in
every dimension each level of that name in any of its hierarchies. -/
def denoted (c : Cube) (name : String) : Set LevelRef :=
  { r | ∃ d ∈ c.dimensions, d.name = r.dimension ∧
    (d.name = name ∧ r.index = 0 ∨ ∃ h ∈ d.hierarchies, ⟨r.index, name⟩ ∈ h.levels) }

/-- The references searched in one dimension are those it denotes. -/
theorem mem_refsNamed_dimension_iff {d : Dimension} {name : String} {r : LevelRef} :
    r ∈ d.refsNamed name ↔ d.name = r.dimension ∧
      (d.name = name ∧ r.index = 0 ∨ ∃ h ∈ d.hierarchies, ⟨r.index, name⟩ ∈ h.levels) := by
  rw [Dimension.refsNamed, List.mem_append, and_or_left]
  refine or_congr ?_ ?_
  · -- the dimension's own name
    split
    · next hname =>
      rw [List.mem_singleton, and_iff_right hname, Hierarchy.finestLevel_eq]
      cases r
      simp [eq_comm]
    · next hname => simp [hname]
  · simp only [List.mem_flatMap, List.mem_map, Hierarchy.mem_indicesOf_iff]
    constructor
    · rintro ⟨h, hh, index, hindex, rfl⟩
      exact ⟨rfl, h, hh, hindex⟩
    · rintro ⟨hname, h, hh, hindex⟩
      refine ⟨h, hh, r.index, hindex, ?_⟩
      rw [hname]

/-- **The references searched are the denoted ones.** -/
theorem mem_refsNamed_iff {c : Cube} {name : String} {r : LevelRef} :
    r ∈ c.refsNamed name ↔ r ∈ c.denoted name := by
  rw [refsNamed, mem_ascending, List.mem_flatMap]
  exact exists_congr fun d => and_congr_right fun _ => mem_refsNamed_dimension_iff

/-- **The references searched are the denoted ones in ascending order.** -/
theorem refsNamed_eq_iff {c : Cube} {name : String} {refs : List LevelRef}
    (h : refs.Pairwise (· < ·)) : c.refsNamed name = refs ↔ c.denoted name = { r | r ∈ refs } := by
  constructor
  · rintro rfl
    exact Set.ext fun r => mem_refsNamed_iff.symm
  · intro hdenoted
    refine eq_of_pairwise_lt (pairwise_ascending _) h fun r => ?_
    exact mem_refsNamed_iff.trans (Set.ext_iff.mp hdenoted r)

/-- Every denoted level exists: some hierarchy of its dimension reaches its index. -/
theorem exists_level_of_mem_denoted {c : Cube} {name : String} {r : LevelRef}
    (h : r ∈ c.denoted name) :
    ∃ d ∈ c.dimensions, d.name = r.dimension ∧ ∃ h ∈ d.hierarchies, r.index < h.length := by
  obtain ⟨d, hd, hname, ⟨-, hzero⟩ | ⟨h, hh, hlevel⟩⟩ := h
  · refine ⟨d, hd, hname, d.primary, List.mem_cons_self, ?_⟩
    rw [hzero]
    exact Nat.succ_pos _
  · exact ⟨d, hd, hname, h, hh,
      (List.getElem?_eq_some_iff.mp (Hierarchy.mem_levels_iff.mp hlevel)).1⟩

/-! ## Resolution -/

/-- A name resolves when it is searched to one reference. -/
theorem resolve_eq_ok_iff {c : Cube} {name : String} {r : LevelRef} :
    c.resolve name = .ok r ↔ c.refsNamed name = [r] := by
  rw [resolve]
  split
  · next h => rw [h]; exact iff_of_false nofun nofun
  · next s h => rw [h, Except.ok.injEq, List.singleton_inj]
  · next candidates hnil hsingle => exact iff_of_false nofun (hsingle r)

/-- A name that resolves denotes the level it resolves to and no other. -/
theorem mem_denoted_iff_of_resolve_eq_ok {c : Cube} {name : String} {r s : LevelRef}
    (h : c.resolve name = .ok r) : s ∈ c.denoted name ↔ s = r := by
  rw [← mem_refsNamed_iff, resolve_eq_ok_iff.mp h, List.mem_singleton]

/-- A name is not found when it is searched to no reference. -/
theorem resolve_eq_notFound_iff {c : Cube} {name : String} :
    c.resolve name = .error (.notFound name) ↔ c.refsNamed name = [] := by
  rw [resolve]
  split
  · next h => exact iff_of_true rfl h
  · next s h => rw [h]; exact iff_of_false nofun nofun
  · next candidates hnil hsingle => exact iff_of_false nofun hnil

/-- A name is ambiguous when it is searched to several references, and these are the candidates. -/
theorem resolve_eq_ambiguous_iff {c : Cube} {name name' : String} {candidates : List LevelRef} :
    c.resolve name = .error (.ambiguous name' candidates) ↔
      name' = name ∧ candidates = c.refsNamed name ∧ 2 ≤ (c.refsNamed name).length := by
  rw [resolve]
  split
  · next h => rw [h]; exact iff_of_false nofun nofun
  · next s h => rw [h]; exact iff_of_false nofun fun ⟨_, _, hlength⟩ => absurd hlength (by simp)
  · next refs hnil hsingle =>
    have hlength : 2 ≤ (c.refsNamed name).length := by
      match hrefs : c.refsNamed name with
      | [] => exact absurd hrefs hnil
      | [r] => exact absurd hrefs (hsingle r)
      | _ :: _ :: _ => exact Nat.le_add_left 2 _
    rw [and_iff_left hlength, Except.error.injEq, ResolveError.ambiguous.injEq, eq_comm,
      eq_comm (b := candidates)]

/-- Several references are searched exactly when several levels are denoted. -/
theorem two_le_length_refsNamed_iff {c : Cube} {name : String} :
    2 ≤ (c.refsNamed name).length ↔ (c.denoted name).Nontrivial := by
  have hascending : (c.refsNamed name).Pairwise (· < ·) := pairwise_ascending _
  have hmem : ∀ r, r ∈ c.denoted name ↔ r ∈ c.refsNamed name := fun r => mem_refsNamed_iff.symm
  match hrefs : c.refsNamed name with
  | [] =>
      refine iff_of_false (by decide) ?_
      rintro ⟨r, hr, -⟩
      rw [hmem, hrefs] at hr
      cases hr
  | [s] =>
      refine iff_of_false (by simp) ?_
      rintro ⟨r, hr, r', hr', hne⟩
      rw [hmem, hrefs, List.mem_singleton] at hr hr'
      exact hne (hr.trans hr'.symm)
  | r :: s :: refs =>
      rw [hrefs] at hascending
      have hlt : r < s := (List.pairwise_cons.mp hascending).1 s List.mem_cons_self
      refine iff_of_true (Nat.le_add_left 2 _) ⟨r, ?_, s, ?_, ne_of_irrefl hlt⟩
      · rw [hmem, hrefs]
        exact List.mem_cons_self
      · rw [hmem, hrefs]
        exact List.mem_cons_of_mem _ List.mem_cons_self

end Cube

/-! ## Schemas listed in another order -/

/-- The dimension lists the same hierarchies, under the same name, in another order. -/
def Dimension.Reorders (d d' : Dimension) : Prop :=
  d.name = d'.name ∧ d.hierarchies.Perm d'.hierarchies

/-- The cube lists the same dimensions, each with its hierarchies, in another order. -/
def Cube.Reorders (c c' : Cube) : Prop :=
  ∃ ds, c.dimensions.Perm ds ∧ List.Forall₂ Dimension.Reorders ds c'.dimensions

namespace Cube

/-- **What a name denotes does not depend on the order of dimensions and hierarchies.** -/
theorem Reorders.denoted_eq {c c' : Cube} (h : c.Reorders c') (name : String) :
    c'.denoted name = c.denoted name := by
  obtain ⟨ds, hperm, hrel⟩ := h
  ext r
  constructor
  · rintro ⟨d', hd', hname, hlevel⟩
    obtain ⟨d, hd, hd_name, hhierarchies⟩ := exists_rel_of_mem_right hrel hd'
    refine ⟨d, hperm.mem_iff.mpr hd, hd_name.trans hname, ?_⟩
    simpa only [hd_name, hhierarchies.mem_iff] using hlevel
  · rintro ⟨d, hd, hname, hlevel⟩
    obtain ⟨d', hd', hd_name, hhierarchies⟩ := exists_rel_of_mem_left hrel (hperm.mem_iff.mp hd)
    refine ⟨d', hd', hd_name.symm.trans hname, ?_⟩
    simpa only [hd_name, hhierarchies.mem_iff] using hlevel

/-- Cubes in which a name denotes the same levels resolve it alike. -/
theorem resolve_congr {c c' : Cube} {name : String} (h : c'.denoted name = c.denoted name) :
    c'.resolve name = c.resolve name := by
  have hrefs : c'.refsNamed name = c.refsNamed name :=
    (refsNamed_eq_iff (pairwise_ascending _)).mpr
      (h.trans ((refsNamed_eq_iff (pairwise_ascending _)).mp rfl))
  rw [resolve, hrefs, ← resolve]

/-- **A name resolves exactly when it denotes one level.** It is not found when it denotes none, and
ambiguous when it denotes several; the candidates are then the texts of all denoted levels, strictly
ascending. Denoted levels exist, and no answer depends on the order in which the dimensions and
their hierarchies are listed. -/
theorem resolve_iff_denoted (c : Cube) (name : String) :
    (∀ r, c.resolve name = .ok r ↔ c.denoted name = {r}) ∧
    (c.resolve name = .error (.notFound name) ↔ c.denoted name = ∅) ∧
    ((∃ candidates, c.resolve name = .error (.ambiguous name candidates)) ↔
      (c.denoted name).Nontrivial) ∧
    (∀ name' candidates, c.resolve name = .error (.ambiguous name' candidates) → name' = name ∧
      (∀ text, text ∈ candidates.map LevelRef.text ↔
        ∃ r ∈ c.denoted name, text = r.dimension ++ ".lvl" ++ toString r.index) ∧
      (candidates.map LevelRef.text).Pairwise (· < ·)) ∧
    (∀ r ∈ c.denoted name, ∃ d ∈ c.dimensions, d.name = r.dimension ∧
      ∃ h ∈ d.hierarchies, r.index < h.length) ∧
    ∀ c' : Cube, c.Reorders c' → c'.resolve name = c.resolve name := by
  refine ⟨fun r => ?_, ?_, ?_, ?_, fun r => exists_level_of_mem_denoted, fun c' h => ?_⟩
  · rw [resolve_eq_ok_iff, refsNamed_eq_iff (List.pairwise_singleton _ _)]
    simp only [List.mem_singleton, Set.ofPred_eq_eq_singleton]
  · rw [resolve_eq_notFound_iff, refsNamed_eq_iff List.Pairwise.nil]
    simp only [List.not_mem_nil, Set.ofPred_false]
  · simp only [resolve_eq_ambiguous_iff, two_le_length_refsNamed_iff, true_and]
    exact ⟨fun ⟨_, _, h⟩ => h, fun h => ⟨_, rfl, h⟩⟩
  · intro name' candidates h
    obtain ⟨hname, rfl, -⟩ := resolve_eq_ambiguous_iff.mp h
    refine ⟨hname, fun text => ?_, List.pairwise_map.mpr (pairwise_ascending _)⟩
    rw [List.mem_map]
    constructor
    · rintro ⟨r, hr, rfl⟩
      exact ⟨r, mem_refsNamed_iff.mp hr, rfl⟩
    · rintro ⟨r, hr, rfl⟩
      exact ⟨r, mem_refsNamed_iff.mpr hr, rfl⟩
  · exact resolve_congr (h.denoted_eq name)

end Cube

end CubeAssessment
