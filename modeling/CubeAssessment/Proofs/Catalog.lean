import CubeAssessment.Catalog
import CubeAssessment.Proofs.Collections.NameMap

/-! # Catalogs as finite maps

A catalog is the map of its cubes under their lower-cased names, so cubes whose lower-cased names
differ can be held in any order. In a catalog filled by holding cubes every cube stands under its
own lower-cased name (`keyed_ofList`), so a look-up finds the cube whose name agrees with the one
asked for (`Keyed.find?_eq_some_iff`), the last of them that was held (`find?_ofList`). When the
lower-cased names are distinct every cube is found (`find?_ofList_eq_some_iff`), and there are as
many cubes in the catalog as in the list (`size_ofList`). -/

namespace CubeAssessment

namespace Catalog

/-- Holding cubes is inserting them under their lower-cased names. -/
theorem cubes_insertAll (c : Catalog) (cubes : List Cube) : (c.insertAll cubes).cubes =
    cubes.foldl (fun m cube => m.insert (Text.lower cube.name) cube) c.cubes := by
  induction cubes generalizing c with
  | nil => rfl
  | cons cube rest ih => exact ih (c.insert cube).2

/-- **Cubes of pairwise different lower-cased names can be held in any order.** -/
theorem insertAll_perm {cubes cubes' : List Cube} (h : cubes.Perm cubes')
    (hnames : (cubes.map fun cube => Text.lower cube.name).Nodup) (c : Catalog) :
    c.insertAll cubes = c.insertAll cubes' := by
  have hcubes : (c.insertAll cubes).cubes = (c.insertAll cubes').cubes := by
    rw [cubes_insertAll, cubes_insertAll, NameMap.foldl_insert_perm h hnames]
  exact congrArg Catalog.mk hcubes

/-- **Holding a cube changes what is found for its name.** -/
theorem find?_insert (c : Catalog) (cube : Cube) (name : String) : (c.insert cube).2.find? name =
    if Text.lower name = Text.lower cube.name then some cube else c.find? name :=
  NameMap.find?_insert c.cubes (Text.lower cube.name) cube (Text.lower name)

/-! ## Cubes under their own names -/

/-- Every cube of the catalog stands under its lower-cased name. -/
def Keyed (c : Catalog) : Prop :=
  ∀ key cube, c.cubes.find? key = some cube → key = Text.lower cube.name

/-- Holding a cube keeps every cube under its lower-cased name. -/
theorem Keyed.insert {c : Catalog} (h : c.Keyed) (cube : Cube) : (c.insert cube).2.Keyed := by
  intro key held hheld
  change (c.cubes.insert (Text.lower cube.name) cube).find? key = some held at hheld
  rw [NameMap.find?_insert] at hheld
  split at hheld
  · next hkey =>
    cases hheld
    exact hkey
  · exact h key held hheld

/-- Holding cubes one after the other keeps every cube under its lower-cased name. -/
theorem Keyed.insertAll {c : Catalog} (h : c.Keyed) (cubes : List Cube) :
    (c.insertAll cubes).Keyed := by
  induction cubes generalizing c with
  | nil => exact h
  | cons cube rest ih => exact ih (h.insert cube)

/-- **In the catalog of a list of cubes every cube stands under its lower-cased name.** -/
theorem keyed_ofList (cubes : List Cube) : (ofList cubes).Keyed :=
  Keyed.insertAll (c := empty) nofun cubes

/-- **A look-up finds the cube of the catalog whose lower-cased name is that of the name.** -/
theorem Keyed.find?_eq_some_iff {c : Catalog} (h : c.Keyed) {name : String} {cube : Cube} :
    c.find? name = some cube ↔
      cube ∈ c.cubes.values ∧ Text.lower cube.name = Text.lower name := by
  rw [NameMap.values, List.mem_map]
  constructor
  · intro hfind
    exact ⟨⟨(Text.lower name, cube), NameMap.find?_eq_some_iff.mp hfind, rfl⟩,
      (h _ _ hfind).symm⟩
  · rintro ⟨⟨⟨key, held⟩, hentry, hheld⟩, hname⟩
    change held = cube at hheld
    subst hheld
    have hfind : c.cubes.find? key = some held := NameMap.find?_eq_some_iff.mpr hentry
    rw [find?, ← hname, ← h key held hfind, hfind]

/-! ## The last cube of a name -/

/-- Holding one more cube is holding it after the others. -/
theorem ofList_concat (cubes : List Cube) (cube : Cube) :
    ofList (cubes ++ [cube]) = ((ofList cubes).insert cube).2 :=
  List.foldl_concat _ _ _ _

/-- **Under a lower-cased name stands the last cube of that name.** -/
theorem find?_cubes_ofList (cubes : List Cube) (key : String) : (ofList cubes).cubes.find? key =
    cubes.findRev? fun cube => Text.lower cube.name == key := by
  have hfound := NameMap.find?_foldl_insert (fun cube : Cube => Text.lower cube.name) id cubes
    NameMap.empty key
  rw [Option.map_id, id] at hfound
  rw [ofList, cubes_insertAll]
  exact hfound.trans (Option.or_none ..)

/-- **A look-up finds the last cube whose name agrees without regard to case.** -/
theorem find?_ofList (cubes : List Cube) (name : String) : (ofList cubes).find? name =
    cubes.findRev? fun cube => Text.lower cube.name == Text.lower name :=
  find?_cubes_ofList cubes (Text.lower name)

/-- The names of a catalog are the lower-cased names of the cubes held. -/
theorem mem_names_ofList_iff {cubes : List Cube} {key : String} :
    key ∈ (ofList cubes).names ↔ ∃ cube ∈ cubes, Text.lower cube.name = key := by
  rw [names, NameMap.mem_names_iff, ← not_iff_not]
  push Not
  rw [← Option.eq_none_iff_forall_ne_some, find?_cubes_ofList, findRev?_eq_none_iff]
  simp only [beq_iff_eq, ne_eq]

/-! ## Names and size -/

/-- The names of a catalog ascend strictly. -/
theorem pairwise_names (c : Catalog) : c.names.Pairwise (· < ·) :=
  List.pairwise_map.mpr c.cubes.pairwise_entries

/-- A catalog has as many names as cubes. -/
theorem size_eq_length_names (c : Catalog) : c.size = c.names.length :=
  (List.length_map _).symm

/-- **In the catalog of cubes of distinct lower-cased names every cube is found.** -/
theorem find?_ofList_eq_some_iff {cubes : List Cube}
    (hnames : (cubes.map fun cube => Text.lower cube.name).Nodup) {name : String} {cube : Cube} :
    (ofList cubes).find? name = some cube ↔
      cube ∈ cubes ∧ Text.lower cube.name = Text.lower name := by
  rw [find?_ofList]
  constructor
  · intro hfind
    obtain ⟨hname, front, back, rfl, -⟩ := findRev?_eq_some_iff.mp hfind
    exact ⟨List.mem_append_right _ List.mem_cons_self, beq_iff_eq.mp hname⟩
  · rintro ⟨hcube, hname⟩
    cases hfind : cubes.findRev? fun cube => Text.lower cube.name == Text.lower name with
    | none => exact absurd (beq_iff_eq.mpr hname) (findRev?_eq_none_iff.mp hfind cube hcube)
    | some other =>
      obtain ⟨hother, front, back, rfl, -⟩ := findRev?_eq_some_iff.mp hfind
      have hmem : other ∈ front ++ other :: back :=
        List.mem_append_right _ List.mem_cons_self
      rw [List.inj_on_of_nodup_map hnames hmem hcube ((beq_iff_eq.mp hother).trans hname.symm)]

/-- **The catalog of cubes of distinct lower-cased names holds as many.** -/
theorem size_ofList {cubes : List Cube}
    (hnames : (cubes.map fun cube => Text.lower cube.name).Nodup) :
    (ofList cubes).size = cubes.length := by
  have hdistinct : (ofList cubes).names.Nodup := (pairwise_names _).imp fun h => ne_of_lt h
  have hsame : (ofList cubes).names.Perm (cubes.map fun cube => Text.lower cube.name) := by
    refine (List.perm_ext_iff_of_nodup hdistinct hnames).mpr fun key => ?_
    rw [mem_names_ofList_iff, List.mem_map]
  rw [size_eq_length_names, hsame.length_eq, List.length_map]

end Catalog

end CubeAssessment
