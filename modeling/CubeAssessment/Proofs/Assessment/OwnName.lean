import CubeAssessment.Proofs.Assessment.Blame
import CubeAssessment.Proofs.Configuration.Catalog
import CubeAssessment.Proofs.Labeling.Cover

/-! # Assessing a cube under its own name

A catalog keeps a cube under its name in lower case, and a build asks for the name it is given
without the white space around it, in lower case. The two agree on every name that is not blank and
has no white space at its ends, whatever its letters: over every catalog that can be reached, a cube
of such a name is assessed under it (`Settings.build_own_name`). Nothing keeps other names out of a
catalog, and a cube of such a name may not be found (`Settings.own_name_refused`). -/

namespace CubeAssessment

/-! ## Reachable catalogs -/

/-- **The catalogs that can be reached**: the empty one, those of configurations, and what holding
further cubes makes of them. -/
inductive Catalog.Reachable : Catalog → Prop
  /-- The catalog without cubes. -/
  | empty : Reachable empty
  /-- The catalog of a configuration. -/
  | configured {config : Config} {catalog : Catalog} (h : config.catalog = .ok catalog) :
      Reachable catalog
  /-- One more cube is held. -/
  | insert {catalog : Catalog} (h : Reachable catalog) (cube : Cube) :
      Reachable (catalog.insert cube).2

/-- **In a reachable catalog every cube stands under its own lower-cased name.** -/
theorem Catalog.Reachable.keyed {catalog : Catalog} (h : catalog.Reachable) : catalog.Keyed := by
  induction h with
  | empty => exact nofun
  | configured h =>
      obtain ⟨-, cubes, -, rfl⟩ := Config.catalog_eq_ok_iff.mp h
      exact keyed_ofList cubes
  | insert _ cube ih => exact ih.insert cube

namespace Settings

/-! ## Ready settings -/

/-- **Settings that are valid but for the cube they ask for**, which no clause narrows. -/
structure Ready (s : Settings) : Prop where
  /-- An aggregation function is given. -/
  aggregation : ∃ text, s.aggregation = some text ∧ ¬ Text.Blank text
  /-- A measurement is given. -/
  measurement : ∃ text, s.measurement = some text ∧ ¬ Text.Blank text
  /-- A benchmark is given, and its details are valid. -/
  benchmark : ∃ setting spec, s.benchmark = some setting ∧ setting.Gives spec
  /-- Delta functions are given. -/
  deltaFunctions_ne : s.deltaFunctions ≠ []
  /-- Each name is one of a delta function. -/
  deltaFunctions : ∀ name ∈ s.deltaFunctions, ∃ f, DeltaFunction.parse name = some f
  /-- The rules make up a partition. -/
  rules : ∃ p, LabelPartition.compile s.rules = .ok p
  /-- There are no names to group by. -/
  groupBy : s.groupBy = []
  /-- There is nothing to select by. -/
  selection : s.selection = NameMap.empty

/-- No text is missing that is given and not blank. -/
theorem missing_eq_empty {field : RequiredField} {value : Option String} {text : String}
    (hvalue : value = some text) (htext : ¬ Text.Blank text) : missing field value = ∅ :=
  Set.eq_empty_of_forall_notMem fun _ he => htext (he.1 text hvalue)

/-- Of no names none is unresolved. -/
theorem unresolved_nil (clause : ResolveError → ClauseError) (cube : Cube) :
    unresolved clause [] cube = ∅ :=
  Set.eq_empty_of_forall_notMem fun _ ⟨_, hleast, _⟩ => List.not_mem_nil hleast.1.1

/-- **Ready settings pass their checks when the cube they ask for is in the catalog.** -/
theorem Ready.passes {s : Settings} (h : s.Ready) {catalog : Catalog} {cube : Cube}
    (htargets : s.Targets catalog cube) {name : String} (hname : s.targetCube = some name)
    (hblank : ¬ Text.Blank name) : Passes (s.checks catalog) := by
  obtain ⟨aggregation, haggregation, haggregation'⟩ := h.aggregation
  obtain ⟨measurement, hmeasurement, hmeasurement'⟩ := h.measurement
  obtain ⟨setting, spec, hbenchmark, hgives⟩ := h.benchmark
  obtain ⟨p, hp⟩ := h.rules
  have hcube : s.noCube catalog = ∅ := by
    refine Set.eq_empty_of_forall_notMem fun e ⟨target, htarget, hnone, _⟩ => ?_
    obtain ⟨hmem, target', htarget', hname'⟩ := htargets
    cases htarget.symm.trans htarget'
    exact hnone cube hmem hname'
  have hnames : ∀ clause, { e | ∃ cube, s.Targets catalog cube ∧ e ∈ unresolved clause [] cube } =
      (∅ : Set BuildError) := fun clause => by simp [unresolved_nil]
  have hdetails : invalidDetails s.benchmark = ∅ := by
    refine Set.eq_empty_of_forall_notMem fun e ⟨details, cause, hset, hcause, _⟩ => ?_
    cases hbenchmark.symm.trans hset
    cases hgives.symm.trans hcause
  have hdeltas : unknownDelta s.deltaFunctions = ∅ := by
    refine Set.eq_empty_of_forall_notMem fun e ⟨known, name, others, hsplit, _, hunknown, _⟩ => ?_
    obtain ⟨f, hf⟩ := h.deltaFunctions name (by simp [hsplit])
    cases hf.symm.trans hunknown
  have hrules : noPartition s.rules = ∅ := by
    refine Set.eq_empty_of_forall_notMem fun e ⟨cause, hcause, _⟩ => ?_
    cases hp.symm.trans hcause
  simp only [checks, h.groupBy, h.selection, passes_cons, passes_nil, and_true]
  exact ⟨missing_eq_empty hname hblank, missing_eq_empty haggregation haggregation',
    missing_eq_empty hmeasurement hmeasurement', by simp [hbenchmark],
    by simp [h.deltaFunctions_ne], hcube, hnames _, hnames _, hdetails, hdeltas, hrules⟩

/-! ## The own name of a cube -/

/-- **A cube can be assessed under its own name** when that name is not empty and has no white space
at its ends. Over a reachable catalog, settings that are otherwise valid and ask for a cube by such
a name give a query on that cube. A blank name is taken for one that was not given. -/
theorem build_own_name {catalog : Catalog} (hcatalog : catalog.Reachable) {cube : Cube}
    (hcube : cube ∈ catalog.cubes.values) {s : Settings} (hready : s.Ready)
    (hown : s.targetCube = some cube.name) :
    (cube.name ≠ "" → Text.trim cube.name = cube.name → ∃ q, s.build catalog = .ok q ∧
      q.targetCube = Text.lower cube.name ∧ catalog.find? q.targetCube = some cube) ∧
    (Text.Blank cube.name → s.build catalog = .error (.missingField .targetCube)) := by
  have hkeyed := hcatalog.keyed
  have hobeys := obeys_build s hkeyed
  constructor
  · intro hne htrim
    -- the name asked for, trimmed and lower-cased, is the one the cube stands under
    have htargets : s.Targets catalog cube := ⟨hcube, cube.name, hown, by rw [htrim]⟩
    have hblank : ¬ Text.Blank cube.name := fun h =>
      hne (htrim.symm.trans (Text.trim_eq_empty_iff.mpr h))
    obtain ⟨q, hq⟩ := hobeys.exists_ok_iff.mpr (hready.passes htargets hown hblank)
    have hname : q.targetCube = Text.lower cube.name := by
      have hyields := (hobeys.good q hq).targetCube
      rw [hown, Option.map_some, htrim, Option.some.injEq] at hyields
      exact hyields.symm
    refine ⟨q, hq, hname, hkeyed.find?_eq_some_iff.mpr ⟨hcube, ?_⟩⟩
    -- a look-up lower-cases once more
    rw [hname, Text.lower_lower]
  · intro hblank
    refine (hobeys.error_iff _).mpr (Or.inl ⟨fun text htext => ?_, rfl⟩)
    cases hown.symm.trans htext
    exact hblank

/-- Settings that ask for a cube and are otherwise valid. -/
def plain (name : String) : Settings :=
  { initial with
    targetCube := some name
    aggregation := some "sum"
    measurement := some "sales"
    benchmark := some (.typed (.pastPeriods 4))
    deltaFunctions := ["ratio"]
    rules := [⟨"(", "-inf", "inf", ")", "any"⟩] }

/-- Such settings are ready, whatever the name. -/
theorem ready_plain (name : String) : (plain name).Ready where
  aggregation := ⟨"sum", rfl, by decide⟩
  measurement := ⟨"sales", rfl, by decide⟩
  benchmark := ⟨.typed (.pastPeriods 4), .pastPeriods 4, rfl, rfl⟩
  deltaFunctions_ne := List.cons_ne_nil _ _
  deltaFunctions := List.forall_mem_singleton.mpr ⟨.ratio, by decide⟩
  rules := by
    change ∃ p, LabelPartition.compile [⟨"(", "-inf", "inf", ")", "any"⟩] = .ok p
    rw [LabelPartition.compile_eq_insertion]
    decide +kernel
  groupBy := rfl
  selection := rfl

/-- A cube of a name with two sorts of small sigma is assessed under its own name. -/
theorem own_name_sales :
    Cube.bare "ΣΟΣ" ∈ (Catalog.ofList [.bare "ΣΟΣ", .bare " "]).cubes.values ∧
      ∃ q, (plain "ΣΟΣ").build (.ofList [.bare "ΣΟΣ", .bare " "]) = .ok q ∧
        q.targetCube = Text.lower "ΣΟΣ" ∧
        (Catalog.ofList [.bare "ΣΟΣ", .bare " "]).find? q.targetCube = some (.bare "ΣΟΣ") := by
  have hreachable : (Catalog.ofList [.bare "ΣΟΣ", .bare " "]).Reachable :=
    .insert (.insert .empty _) _
  have hmem : Cube.bare "ΣΟΣ" ∈ (Catalog.ofList [.bare "ΣΟΣ", .bare " "]).cubes.values := by
    decide +kernel
  exact ⟨hmem, (build_own_name hreachable hmem (ready_plain _) rfl).1 (by decide) (by decide)⟩

/-- **Own names that are refused.** A cube whose name has white space around it is not found under
it, and a blank name is taken for one that was not given, though the catalog holds both cubes and
the settings are valid. -/
theorem own_name_refused :
    (Catalog.ofList [.bare " sales ", .bare " "]).Reachable ∧
    (Catalog.ofList [.bare " sales ", .bare " "]).cubes.values = [.bare " ", .bare " sales "] ∧
    (plain " sales ").Ready ∧ (plain " sales ").targetCube = some " sales " ∧
    (plain " sales ").build (.ofList [.bare " sales ", .bare " "]) =
      .error (.cubeNotFound "sales") ∧
    (plain " ").Ready ∧ (plain " ").targetCube = some " " ∧
    (plain " ").build (.ofList [.bare " sales ", .bare " "]) =
      .error (.missingField .targetCube) := by
  refine ⟨.insert (.insert .empty _) _, by decide +kernel, ready_plain _, rfl, ?_,
    ready_plain _, rfl, ?_⟩
  · decide +kernel
  · decide +kernel

end Settings

end CubeAssessment
