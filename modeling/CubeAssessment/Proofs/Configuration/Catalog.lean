import CubeAssessment.Proofs.Catalog
import CubeAssessment.Proofs.Configuration.Definitions

/-! # The catalog of a configuration

A configuration collects the cubes its definitions make under their lower-cased names. So its
catalog is exactly its list of cubes when these names are distinct and the definitions valid, and
otherwise the first definition that is not valid or repeats a name is to blame
(`Config.catalog_holds_or_defect`). -/

namespace CubeAssessment.Config

/-- **Definitions of cubes are sound**: each is valid, and no two names agree without regard to
case. -/
def SoundCubes (ds : List CubeDefinition) : Prop :=
  (∀ d ∈ ds, d.Valid) ∧ (ds.map fun d => Text.lower d.name).Nodup

/-- **What is wrong with the cubes of a configuration**: what is wrong with the first definition
that is not valid or repeats a name. -/
inductive Defect (c : Config) : ConfigError → Prop
  /-- The definition is not valid; it is reported under the name as written. -/
  | schema {front back : List CubeDefinition} {d : CubeDefinition} {cause : SchemaError}
      (hsplit : c.cubes = front ++ d :: back) (hfront : SoundCubes front)
      (hdefect : d.Defect cause) : Defect c (.schema d.name cause)
  /-- The definition is valid and one before it has its name, without regard to case; the
  lower-cased name is reported. -/
  | duplicateCube {front back : List CubeDefinition} {d : CubeDefinition}
      (hsplit : c.cubes = front ++ d :: back) (hfront : SoundCubes front) (hvalid : d.Valid)
      (htaken : ∃ earlier ∈ front, Text.lower earlier.name = Text.lower d.name) :
      Defect c (.duplicateCube (Text.lower d.name))

/-! ## Collecting the cubes -/

/-- Add the cube of a definition to a catalog, unless its name is taken. -/
def addCube (catalog : Catalog) (d : CubeDefinition) : Except ConfigError Catalog :=
  match d.toCube with
  | .error cause => .error (.schema d.name cause)
  | .ok cube =>
      if (catalog.find? cube.name).isSome then .error (.duplicateCube (Text.lower d.name))
      else .ok (catalog.insert cube).2

/-- Adding the cubes of definitions is adding one after the other. -/
theorem addCubes_eq_foldlM (catalog : Catalog) (ds : List CubeDefinition) :
    addCubes catalog ds = ds.foldlM addCube catalog := by
  induction ds generalizing catalog with
  | nil => rfl
  | cons d ds ih =>
    rw [List.foldlM_cons, addCubes, addCube]
    cases d.toCube with
    | error cause => rfl
    | ok cube =>
      simp only [Catalog.insert]
      cases catalog.find? cube.name with
      | none => exact ih _
      | some old => rfl

/-- **Cubes are collected in a catalog** under their lower-cased names. -/
def collector : Collector ConfigError SchemaError Catalog CubeDefinition Cube where
  step := addCube
  build := Catalog.ofList
  make := CubeDefinition.toCube
  key cube := Text.lower cube.name
  keyOf d := Text.lower d.name
  invalid d cause := .schema d.name cause
  taken d := .duplicateCube (Text.lower d.name)
  key_eq d cube hmake :=
    congrArg Text.lower (CubeDefinition.toCube_eq_ok_iff.mp hmake).2.name_eq
  step_eq cubes d := by
    unfold addCube
    cases d.toCube with
    | error cause => rfl
    | ok cube =>
      -- a name is taken in the catalog exactly when it is one of those collected
      have htaken : ((Catalog.ofList cubes).find? cube.name).isSome ↔
          Text.lower cube.name ∈ cubes.map fun held => Text.lower held.name := by
        rw [Option.isSome_iff_ne_none, ne_eq, Catalog.find?_ofList, findRev?_eq_none_iff,
          List.mem_map]
        simp
      simp only [htaken, Catalog.ofList_concat]

/-- The catalog of a configuration is collected from its definitions. -/
theorem catalog_eq_collect (c : Config) : c.catalog = collector.collect c.cubes :=
  addCubes_eq_foldlM Catalog.empty c.cubes

/-- Definitions are a sound row when they are valid and of distinct lower-cased names. -/
theorem sound_iff_soundCubes {ds : List CubeDefinition} :
    collector.Sound ds ↔ SoundCubes ds := by
  simp only [Collector.Sound, collector, CubeDefinition.exists_toCube_eq_ok_iff, SoundCubes]

/-- **The catalog of a configuration is that of the cubes described**, in order. -/
theorem catalog_eq_ok_iff {c : Config} {catalog : Catalog} : c.catalog = .ok catalog ↔
    (c.cubes.map fun d => Text.lower d.name).Nodup ∧
      ∃ cubes, List.Forall₂ (fun d cube => d.toCube = .ok cube) c.cubes cubes ∧
        catalog = Catalog.ofList cubes := by
  rw [catalog_eq_collect, Collector.collect_eq_ok_iff]
  rfl

/-- **A configuration has a catalog exactly when its definitions are sound.** -/
theorem exists_catalog_eq_ok_iff {c : Config} :
    (∃ catalog, c.catalog = .ok catalog) ↔ SoundCubes c.cubes := by
  rw [catalog_eq_collect, Collector.exists_collect_eq_ok_iff, sound_iff_soundCubes]

/-- **A configuration without a catalog fails with its defect.** -/
theorem catalog_eq_error_iff {c : Config} {e : ConfigError} :
    c.catalog = .error e ↔ c.Defect e := by
  rw [catalog_eq_collect, Collector.collect_eq_error_iff]
  simp only [sound_iff_soundCubes]
  simp only [collector, CubeDefinition.toCube_eq_error_iff,
    CubeDefinition.exists_toCube_eq_ok_iff, List.mem_map]
  constructor
  · rintro ⟨front, d, back, hsplit, hfront, ⟨cause, hdefect, rfl⟩ | ⟨hvalid, htaken, rfl⟩⟩
    · exact .schema hsplit hfront hdefect
    · exact .duplicateCube hsplit hfront hvalid htaken
  · rintro (⟨hsplit, hfront, hdefect⟩ | ⟨hsplit, hfront, hvalid, htaken⟩)
    · exact ⟨_, _, _, hsplit, hfront, Or.inl ⟨_, hdefect, rfl⟩⟩
    · exact ⟨_, _, _, hsplit, hfront, Or.inr ⟨hvalid, htaken, rfl⟩⟩

/-! ## What a catalog holds -/

/-- **The catalog of a configuration holds one cube for each definition**, found by its name, and no
other. -/
structure Holds (ds : List CubeDefinition) (catalog : Catalog) : Prop where
  /-- There are as many cubes as definitions. -/
  size_eq : catalog.size = ds.length
  /-- The cube of each definition is found by its name. -/
  found : ∀ d ∈ ds, ∃ cube, catalog.find? d.name = some cube ∧ d.Describes cube
  /-- Every cube found is that of a definition of the name. -/
  described : ∀ (name : String) (cube : Cube), catalog.find? name = some cube →
    ∃ d ∈ ds, Text.lower d.name = Text.lower name ∧ d.Describes cube

/-- The catalog of a configuration holds the cubes its definitions describe. -/
theorem holds_of_catalog_eq_ok {c : Config} {catalog : Catalog} (h : c.catalog = .ok catalog) :
    Holds c.cubes catalog := by
  obtain ⟨hnodup, cubes, hmade, rfl⟩ := catalog_eq_ok_iff.mp h
  have hnames : (cubes.map fun cube => Text.lower cube.name).Nodup := by
    change (cubes.map collector.key).Nodup
    rw [Collector.map_key_eq hmade]
    exact hnodup
  refine ⟨?_, fun d hd => ?_, fun name cube hfind => ?_⟩
  · rw [Catalog.size_ofList hnames, hmade.length_eq]
  · obtain ⟨cube, hcube, hmake⟩ := exists_rel_of_mem_left hmade hd
    have hdescribes := (CubeDefinition.toCube_eq_ok_iff.mp hmake).2
    refine ⟨cube, (Catalog.find?_ofList_eq_some_iff hnames).mpr ⟨hcube, ?_⟩, hdescribes⟩
    rw [hdescribes.name_eq]
  · obtain ⟨hcube, hname⟩ := (Catalog.find?_ofList_eq_some_iff hnames).mp hfind
    obtain ⟨d, hd, hmake⟩ := exists_rel_of_mem_right hmade hcube
    have hdescribes := (CubeDefinition.toCube_eq_ok_iff.mp hmake).2
    rw [hdescribes.name_eq] at hname
    exact ⟨d, hd, hname, hdescribes⟩

/-- **The catalog of a configuration is exactly its list of cubes, or the first defect in it.**
There is one exactly when the lower-cased names of the cubes are distinct and every definition is
valid. It then holds one cube for each definition, found by its name, with the dimensions and
hierarchies written, in order. Otherwise the first definition that is not valid or repeats a name is
to blame, within one that is not valid the first dimension that is not valid or repeats a name, and
in either case for not being valid if it does both. -/
theorem catalog_holds_or_defect (c : Config) :
    ((∃ catalog, c.catalog = .ok catalog) ↔
      (c.cubes.map fun d => Text.lower d.name).Nodup ∧ ∀ d ∈ c.cubes, d.Valid) ∧
    (∀ catalog, c.catalog = .ok catalog → Holds c.cubes catalog) ∧
    ∀ e, c.catalog = .error e ↔ c.Defect e := by
  refine ⟨?_, fun catalog => holds_of_catalog_eq_ok, fun e => catalog_eq_error_iff⟩
  rw [exists_catalog_eq_ok_iff, SoundCubes, and_comm]

/-- A definition that is not valid and repeats a name is blamed for not being valid. -/
example : catalog ⟨LoggingConfig.default,
    [⟨"Sales", []⟩, ⟨"SALES", [⟨"date", [], []⟩]⟩], NameMap.empty⟩ =
      .error (.schema "SALES" (.noHierarchies "date")) := by
  rfl

end CubeAssessment.Config
