import CubeAssessment.Assessment.Build
import CubeAssessment.Proofs.Catalog
import CubeAssessment.Proofs.Clauses
import CubeAssessment.Proofs.Collections.Faults
import CubeAssessment.Proofs.Denotation
import CubeAssessment.Proofs.Text.Blank
import CubeAssessment.Proofs.Text.LowerCase
import Mathlib.Order.Bounds.Basic

/-! # What a build blames and what it yields

Several things can be wrong with the settings of an assessment at once. `Settings.checks` lists them
in the order in which a build blames them, each said of the settings and the catalog alone, and
`Settings.Yields` says which query a build gives when none of them is found. A build fails with
exactly the fault blamed first and otherwise yields that query
(`build_error_iff_blames_and_ok_iff_yields`). The proof follows the three stages: each obeys its
own checks, in order. -/

namespace CubeAssessment

/-! ## Faults -/

/-- The name of a resolution error is the name that was resolved. -/
theorem Cube.name_of_resolve_eq_error {c : Cube} {name : String} {cause : ResolveError}
    (h : c.resolve name = .error cause) : cause.name = name := by
  rw [resolve] at h
  split at h
  · cases h
    rfl
  · cases h
  · cases h
    rfl

namespace Settings

/-- A text setting that is not given or blank. -/
def Unset (value : Option String) : Prop := ∀ text, value = some text → Text.Blank text

/-- The cube of the catalog whose name is the one asked for, without regard to case and to white
space around the latter. -/
def Targets (s : Settings) (catalog : Catalog) (cube : Cube) : Prop :=
  cube ∈ catalog.cubes.values ∧
    ∃ target, s.targetCube = some target ∧ Text.lower cube.name = Text.lower (Text.trim target)

/-- A required text setting is missing. -/
def missing (field : RequiredField) (value : Option String) : Set BuildError :=
  { e | Unset value ∧ e = .missingField field }

/-- No cube of the catalog has the name asked for. -/
def noCube (s : Settings) (catalog : Catalog) : Set BuildError :=
  { e | ∃ target, s.targetCube = some target ∧
    (∀ cube ∈ catalog.cubes.values, Text.lower cube.name ≠ Text.lower (Text.trim target)) ∧
    e = .cubeNotFound (Text.lower (Text.trim target)) }

/-- The smallest of the names that do not resolve in a cube, with why it does not. -/
def unresolved (clause : ResolveError → ClauseError) (names : List String) (cube : Cube) :
    Set BuildError :=
  { e | ∃ cause, IsLeast { name | name ∈ names ∧ ∀ r, cube.resolve name ≠ .ok r } cause.name ∧
    cube.resolve cause.name = .error cause ∧ e = .levelResolutionFailed (clause cause) }

/-- The details of the benchmark are refused. -/
def invalidDetails (benchmark : Option BenchmarkSetting) : Set BuildError :=
  { e | ∃ details cause, benchmark = some (.details details) ∧
    BenchmarkSpec.ofDetails details = .error cause ∧ e = .invalidBenchmark cause }

/-- The first of the names that no delta function has. -/
def unknownDelta (names : List String) : Set BuildError :=
  { e | ∃ known name others, names = known ++ name :: others ∧
    (∀ other ∈ known, DeltaFunction.parse other ≠ none) ∧ DeltaFunction.parse name = none ∧
    e = .invalidDeltaFunction name }

/-- The labeling rules make up no partition. -/
def noPartition (rules : List LabelingRule) : Set BuildError :=
  { e | ∃ cause, LabelPartition.compile rules = .error cause ∧ e = .labeling cause }

/-- **The checks of a build, in the order of blame**, each as the set of the faults it finds. -/
def checks (s : Settings) (catalog : Catalog) : List (Set BuildError) :=
  [ missing .targetCube s.targetCube,
    missing .aggregation s.aggregation,
    missing .measurement s.measurement,
    { e | s.benchmark = none ∧ e = .missingField .benchmark },
    { e | s.deltaFunctions = [] ∧ e = .missingField .deltaFunctions },
    s.noCube catalog,
    { e | ∃ cube, s.Targets catalog cube ∧ e ∈ unresolved .groupBy s.groupBy cube },
    { e | ∃ cube, s.Targets catalog cube ∧ e ∈ unresolved .selection s.selection.names cube },
    invalidDetails s.benchmark,
    unknownDelta s.deltaFunctions,
    noPartition s.rules ]

end Settings

/-! ## The query -/

/-- The benchmark of a setting: a typed one as it is, details as far as they are valid. -/
def BenchmarkSetting.Gives : BenchmarkSetting → BenchmarkSpec → Prop
  | typed spec, given => given = spec
  | details fields, given => BenchmarkSpec.ofDetails fields = .ok given

/-- The levels that names resolve to, each once and in ascending order. -/
def GammaClause.Collects (gamma : GammaClause) (cube : Cube) (names : List String) : Prop :=
  gamma.levels.Pairwise (· < ·) ∧
    ∀ r, r ∈ gamma.levels ↔ ∃ name ∈ names, cube.resolve name = .ok r

/-- The predicates of pairs of a level name and a literal, each once and in ascending order. -/
def SigmaClause.Collects (sigma : SigmaClause) (cube : Cube) (pairs : List (String × String)) :
    Prop :=
  sigma.predicates.Pairwise (· < ·) ∧
    ∀ p, p ∈ sigma.predicates ↔ ∃ pair ∈ pairs, cube.resolve pair.1 = .ok p.level ∧
      pair.2 = p.literal

/-- **The query that settings yield over a catalog.** -/
structure Settings.Yields (s : Settings) (catalog : Catalog) (q : Query) : Prop where
  /-- The clauses are those of the group-by names and the selection pairs in the cube asked for. -/
  clauses : ∃ cube, s.Targets catalog cube ∧ q.gamma.Collects cube s.groupBy ∧
    q.sigma.Collects cube s.selection.entries
  /-- The target is the name asked for, trimmed and lower-cased. -/
  targetCube : s.targetCube.map (fun text => Text.lower (Text.trim text)) = some q.targetCube
  /-- The query is named after the target and the measurement. -/
  name : q.name = q.targetCube ++ "_" ++ q.measurement
  /-- The aggregation function is trimmed and lower-cased. -/
  aggregation : s.aggregation.map (fun text => Text.lower (Text.trim text)) = some q.aggregation
  /-- The measurement is trimmed. -/
  measurement : s.measurement.map Text.trim = some q.measurement
  /-- The benchmark is that of the setting. -/
  benchmark : ∃ setting, s.benchmark = some setting ∧ setting.Gives q.benchmark
  /-- The delta functions are those of the names, one for each and in their order. -/
  deltaFunctions : s.deltaFunctions.map DeltaFunction.parse = q.deltaFunctions.map some
  /-- The partition is that of the rules. -/
  partition : LabelPartition.compile s.rules = .ok q.partition

namespace Settings

variable {s : Settings} {catalog : Catalog}

/-! ## The first stage -/

/-- A required text setting fails when it is missing and is trimmed otherwise. -/
theorem obeys_required (field : RequiredField) (value : Option String) :
    Obeys [missing field value] (fun text => value.map Text.trim = some text)
      (required field value) := by
  cases value with
  | none =>
      have hunset : Unset none := nofun
      exact .fail (by simp [missing, hunset])
  | some text =>
      have hunset : Unset (some text) ↔ Text.trim text = "" := by
        rw [Text.trim_eq_empty_iff]
        exact ⟨fun h => h text rfl, fun h _ heq => by cases heq; exact h⟩
      rw [required, Option.map_some]
      by_cases hblank : Text.trim text = ""
      · simp only [hblank, if_true]
        exact .fail (by simp [missing, hunset, hblank])
      · simp only [hblank, if_false]
        exact .skip (by simp [missing, hunset, hblank]) (.ok rfl)

/-- The settings ask for at most one cube of a catalog. -/
theorem Targets.unique (h : catalog.Keyed) {cube cube' : Cube} (hcube : s.Targets catalog cube)
    (hcube' : s.Targets catalog cube') : cube = cube' := by
  obtain ⟨hmem, target, htarget, hname⟩ := hcube
  obtain ⟨hmem', target', htarget', hname'⟩ := hcube'
  cases htarget.symm.trans htarget'
  have hfind : catalog.find? (Text.trim target) = some cube :=
    h.find?_eq_some_iff.mpr ⟨hmem, hname⟩
  have hfind' : catalog.find? (Text.trim target) = some cube' :=
    h.find?_eq_some_iff.mpr ⟨hmem', hname'⟩
  exact Option.some_inj.mp (hfind.symm.trans hfind')

/-- What the first stage finds: the settings as they go into a query, and the cube asked for. -/
structure Finds (s : Settings) (catalog : Catalog) (t : Target) : Prop where
  /-- The cube is the one asked for. -/
  cube : s.Targets catalog t.cube
  /-- Its name is the one asked for, trimmed and lower-cased. -/
  cubeName : s.targetCube.map (fun text => Text.lower (Text.trim text)) = some t.cubeName
  /-- The aggregation function is trimmed. -/
  aggregation : s.aggregation.map Text.trim = some t.aggregation
  /-- The measurement is trimmed. -/
  measurement : s.measurement.map Text.trim = some t.measurement
  /-- The benchmark is as set. -/
  benchmark : s.benchmark = some t.benchmark

/-- Looking up the cube asked for fails when the catalog has none. -/
theorem find?_lower_eq_none_iff (h : catalog.Keyed) {name : String} :
    catalog.find? (Text.lower name) = none ↔
      ∀ cube ∈ catalog.cubes.values, Text.lower cube.name ≠ Text.lower name := by
  rw [Option.eq_none_iff_forall_ne_some]
  simp only [ne_eq, h.find?_eq_some_iff, Text.lower_lower, not_and]

/-- **The first stage obeys the first six checks.** -/
theorem obeys_target (h : catalog.Keyed) :
    Obeys ((s.checks catalog).take 6) (s.Finds catalog) (s.target catalog) := by
  change Obeys ([_] ++ ([_] ++ ([_] ++ [_, _, _]))) _ _
  refine (obeys_required .targetCube s.targetCube).bind fun cubeName hcubeName => ?_
  refine (obeys_required .aggregation s.aggregation).bind fun aggregation haggregation => ?_
  refine (obeys_required .measurement s.measurement).bind fun measurement hmeasurement => ?_
  -- what is left is not a chain: the benchmark, the delta functions and the cube
  obtain ⟨target, htarget, hname⟩ : ∃ target, s.targetCube = some target ∧
      Text.trim target = cubeName := Option.map_eq_some_iff.mp hcubeName
  cases hbenchmark : s.benchmark with
  | none => exact .fail (by simp)
  | some benchmark =>
      refine .skip (by simp) ?_
      by_cases hdeltas : s.deltaFunctions = []
      · simp only [hdeltas, List.isEmpty_nil, if_true]
        exact .fail (by simp)
      · simp only [List.isEmpty_iff, hdeltas, if_false]
        refine .skip (by simp) ?_
        cases hfind : catalog.find? (Text.lower cubeName) with
        | none =>
            rw [find?_lower_eq_none_iff h] at hfind
            refine .fail (Set.ext fun e => ?_)
            simpa [noCube, htarget, hname] using fun _ => hfind
        | some cube =>
            have hcube := h.find?_eq_some_iff.mp hfind
            rw [Text.lower_lower, ← hname] at hcube
            have htargets : s.Targets catalog cube := ⟨hcube.1, target, htarget, hcube.2⟩
            refine .skip ?_ (.ok ⟨htargets, ?_, haggregation, hmeasurement, hbenchmark⟩)
            · refine Set.eq_empty_iff_forall_notMem.mpr ?_
              rintro e ⟨target', htarget', hnone, -⟩
              cases htarget.symm.trans htarget'
              exact hnone cube hcube.1 hcube.2
            · rw [htarget, Option.map_some, hname]

/-- **What the first stage finds comes from the settings**, the cube under its lower-cased name,
whatever the catalog holds. -/
theorem of_target_eq_ok {t : Target} (h : s.target catalog = .ok t) :
    s.targetCube.map (fun text => Text.lower (Text.trim text)) = some t.cubeName ∧
      catalog.find? t.cubeName = some t.cube ∧ s.measurement.map Text.trim = some t.measurement ∧
      s.benchmark = some t.benchmark := by
  rw [target] at h
  obtain ⟨cubeName, hcubeName, h⟩ := bind_eq_ok_iff.mp h
  obtain ⟨aggregation, -, h⟩ := bind_eq_ok_iff.mp h
  obtain ⟨measurement, hmeasurement, h⟩ := bind_eq_ok_iff.mp h
  have hname : s.targetCube.map (fun text => Text.lower (Text.trim text)) =
      some (Text.lower cubeName) := by
    obtain ⟨text, htext, htrim⟩ := Option.map_eq_some_iff.mp
      ((obeys_required .targetCube s.targetCube).good _ hcubeName)
    rw [htext, Option.map_some, htrim]
  have hmeasure := (obeys_required .measurement s.measurement).good _ hmeasurement
  dsimp only at h
  split at h
  · cases h
  · next benchmark hbenchmark =>
    split at h
    · cases h
    · split at h
      · cases h
      · next cube hcube =>
        cases h
        exact ⟨hname, hcube, hmeasure, hbenchmark⟩

/-! ## The second stage -/

/-- **Names fail to be collected as the smallest that does not resolve.** -/
theorem collect_eq_error_iff_isLeast {α β : Type} [LT β] [DecidableLT β] {cube : Cube}
    {name : α → String} {make : α → LevelRef → β} {items : List α} {cause : ResolveError} :
    cube.collect name make items = .error cause ↔
      IsLeast { n | n ∈ items.map name ∧ ∀ r, cube.resolve n ≠ .ok r } cause.name ∧
        cube.resolve cause.name = .error cause := by
  rw [Cube.collect_eq_error_iff]
  constructor
  · rintro ⟨item, hitem, hcause, hsmaller⟩
    have hname := Cube.name_of_resolve_eq_error hcause
    rw [hname]
    refine ⟨⟨⟨List.mem_map_of_mem hitem, fun r hr => ?_⟩, ?_⟩, hcause⟩
    · cases hcause.symm.trans hr
    · rintro n ⟨hn, hunresolved⟩
      obtain ⟨item', hitem', rfl⟩ := List.mem_map.mp hn
      refine not_lt.mp fun hlt => ?_
      obtain ⟨r, hr⟩ := hsmaller item' hitem' hlt
      exact hunresolved r hr
  · rintro ⟨⟨⟨hmem, -⟩, hleast⟩, hcause⟩
    obtain ⟨item, hitem, hname⟩ := List.mem_map.mp hmem
    rw [← hname] at hcause hleast
    refine ⟨item, hitem, hcause, fun item' hitem' hlt => ?_⟩
    by_contra hunresolved
    refine not_le.mpr hlt (hleast ⟨List.mem_map_of_mem hitem', fun r hr => ?_⟩)
    exact hunresolved ⟨r, hr⟩

/-- Collecting for a clause obeys the check of its names. -/
theorem obeys_collect {α β : Type} [LT β] [DecidableLT β] [IsStrictTotalOrder β (· < ·)]
    (clause : ResolveError → ClauseError) (cube : Cube) (name : α → String)
    (make : α → LevelRef → β) (items : List α) :
    Obeys [unresolved clause (items.map name) cube]
      (fun collected => collected.Pairwise (· < ·) ∧ ∀ b, b ∈ collected ↔
        ∃ item ∈ items, ∃ r, cube.resolve (name item) = .ok r ∧ make item r = b)
      ((cube.collect name make items).mapError fun cause =>
        .levelResolutionFailed (clause cause)) := by
  refine .single (fun e => ?_) fun collected hcollected => ?_
  · simp only [mapError_eq_error_iff, collect_eq_error_iff_isLeast, unresolved, Set.mem_ofPred_eq,
      and_assoc]
  · exact Cube.of_collect_eq_ok (mapError_eq_ok_iff.mp hcollected)

/-- **The second stage obeys the checks of the group-by names and the selection names.** -/
theorem obeys_clauses (cube : Cube) (names : List String) (pairs : List (String × String)) :
    Obeys [unresolved .groupBy names cube, unresolved .selection (pairs.map Prod.fst) cube]
      (fun clauses => clauses.1.Collects cube names ∧ clauses.2.Collects cube pairs)
      (clauses cube names pairs) := by
  have hgamma : Obeys [unresolved .groupBy names cube] (fun gamma => gamma.Collects cube names)
      ((GammaClause.build cube names).mapError .levelResolutionFailed) := by
    have hcollect := obeys_collect .groupBy cube id (fun _ level => level) names
    rw [List.map_id] at hcollect
    convert hcollect.map (f := GammaClause.mk) ?_ using 1
    · rw [GammaClause.build]
      split <;> next h => rw [h]; rfl
    · rintro levels ⟨hascending, hlevels⟩
      exact ⟨hascending, fun r => by simp [hlevels]⟩
  have hsigma : Obeys [unresolved .selection (pairs.map Prod.fst) cube]
      (fun sigma => sigma.Collects cube pairs)
      ((SigmaClause.build cube pairs).mapError .levelResolutionFailed) := by
    have hcollect := obeys_collect .selection cube Prod.fst
      (fun pair level => Predicate.mk level pair.2) pairs
    convert hcollect.map (f := SigmaClause.mk) ?_ using 1
    · rw [SigmaClause.build]
      split <;> next h => rw [h]; rfl
    · rintro predicates ⟨hascending, hpredicates⟩
      refine ⟨hascending, fun p => ?_⟩
      rw [hpredicates]
      constructor
      · rintro ⟨pair, hpair, r, hr, rfl⟩
        exact ⟨pair, hpair, hr, rfl⟩
      · rintro ⟨pair, hpair, hr, hliteral⟩
        exact ⟨pair, hpair, p.level, hr, by rw [hliteral]⟩
  exact hgamma.bind fun gamma hgamma => hsigma.bind fun sigma hsigma => .ok ⟨hgamma, hsigma⟩

/-! ## The last stage -/

/-- A benchmark setting obeys the check of its details. -/
theorem obeys_typedBenchmark (benchmark : BenchmarkSetting) :
    Obeys [invalidDetails (some benchmark)] benchmark.Gives (typedBenchmark benchmark) := by
  cases benchmark with
  | typed spec => exact .skip (by simp [invalidDetails]) (.ok rfl)
  | details fields =>
      refine .single (fun e => ?_) fun spec hspec => mapError_eq_ok_iff.mp hspec
      simp [typedBenchmark, mapError_eq_error_iff, invalidDetails]

/-- The delta functions of names obey the check of the names. -/
theorem obeys_deltaFunctions (names : List String) :
    Obeys [unknownDelta names] (fun functions => names.map DeltaFunction.parse = functions.map some)
      (names.mapM deltaFunction) := by
  have hok : ∀ name f, deltaFunction name = .ok f ↔ DeltaFunction.parse name = some f := by
    intro name f
    rw [deltaFunction]
    cases DeltaFunction.parse name <;> simp
  have herror : ∀ name e, deltaFunction name = .error e ↔
      DeltaFunction.parse name = none ∧ e = .invalidDeltaFunction name := by
    intro name e
    rw [deltaFunction]
    cases DeltaFunction.parse name <;> simp [eq_comm]
  refine .single (fun e => ?_) fun functions hfunctions => ?_
  · simp only [mapM_eq_error_iff, hok, herror, unknownDelta, Set.mem_ofPred_eq,
      Option.ne_none_iff_exists']
  · have hrel := mapM_eq_ok_iff.mp hfunctions
    simp only [hok] at hrel
    rw [← List.forall₂_eq_eq_eq, List.forall₂_map_left_iff, List.forall₂_map_right_iff]
    exact hrel

/-- **The last stage obeys the checks of the benchmark, the delta functions and the rules.** -/
theorem obeys_measure (s : Settings) (benchmark : BenchmarkSetting) :
    Obeys [invalidDetails (some benchmark), unknownDelta s.deltaFunctions, noPartition s.rules]
      (fun measure => benchmark.Gives measure.benchmark ∧
        s.deltaFunctions.map DeltaFunction.parse = measure.deltaFunctions.map some ∧
        LabelPartition.compile s.rules = .ok measure.partition)
      (s.measure benchmark) := by
  have hpartition : Obeys [noPartition s.rules]
      (fun partition => LabelPartition.compile s.rules = .ok partition)
      ((LabelPartition.compile s.rules).mapError .labeling) := by
    refine .single (fun e => ?_) fun partition h => mapError_eq_ok_iff.mp h
    rw [mapError_eq_error_iff]
    rfl
  exact (obeys_typedBenchmark benchmark).bind fun spec hspec =>
    (obeys_deltaFunctions s.deltaFunctions).bind fun functions hfunctions =>
      hpartition.bind fun partition hcompiled => .ok ⟨hspec, hfunctions, hcompiled⟩

/-! ## The whole build -/

/-- A build goes through the three stages and makes a query of what they find. -/
theorem build_eq (s : Settings) (catalog : Catalog) : s.build catalog =
    s.target catalog >>= fun target =>
      clauses target.cube s.groupBy s.selection.entries >>= fun found =>
        s.measure target.benchmark >>= fun measure =>
          .ok (Query.ofStages target found.1 found.2 measure) := by
  rw [build, buildReport, buildReportInOrder]
  cases s.target catalog with
  | error e => rfl
  | ok target =>
      change BuildReport.outcome _ = clauses target.cube s.groupBy s.selection.entries >>= _
      dsimp only
      cases clauses target.cube s.groupBy s.selection.entries with
      | error e => rfl
      | ok found =>
          change BuildReport.outcome _ = s.measure target.benchmark >>= _
          dsimp only
          cases s.measure target.benchmark with
          | error e => rfl
          | ok measure => rfl

/-- **A build gives a query exactly when each of its stages finds something**, and then the query
made of that. -/
theorem build_eq_ok_iff {q : Query} : s.build catalog = .ok q ↔
    ∃ target, s.target catalog = .ok target ∧
      ∃ found, clauses target.cube s.groupBy s.selection.entries = .ok found ∧
        ∃ measure, s.measure target.benchmark = .ok measure ∧
          Query.ofStages target found.1 found.2 measure = q := by
  simp only [build_eq, bind_eq_ok_iff, Except.ok.injEq]

/-- **A build obeys its checks and yields the query of its settings.** -/
theorem obeys_build (s : Settings) {catalog : Catalog} (h : catalog.Keyed) :
    Obeys (s.checks catalog) (s.Yields catalog) (s.build catalog) := by
  rw [build_eq]
  change Obeys ((s.checks catalog).take 6 ++ ([_, _] ++ ([_, _, _] ++ []))) _ _
  refine (obeys_target h).bind fun target htarget => ?_
  -- only one cube is asked for, so the checks of the names are those in the cube found
  have hcube : ∀ clause names, { e | ∃ cube, s.Targets catalog cube ∧
      e ∈ unresolved clause names cube } = unresolved clause names target.cube := by
    intro clause names
    ext e
    constructor
    · rintro ⟨cube, hcube, he⟩
      rwa [hcube.unique h htarget.cube] at he
    · intro he
      exact ⟨target.cube, htarget.cube, he⟩
  rw [hcube, hcube]
  refine (obeys_clauses target.cube s.groupBy s.selection.entries).bind fun found hfound => ?_
  rw [htarget.benchmark]
  refine (obeys_measure s target.benchmark).bind fun measure hmeasure => .ok ?_
  obtain ⟨hgamma, hsigma⟩ := hfound
  obtain ⟨hbenchmark, hdeltas, hpartition⟩ := hmeasure
  exact
    { clauses := ⟨target.cube, htarget.cube, hgamma, hsigma⟩
      targetCube := htarget.cubeName
      name := rfl
      aggregation := by
        obtain ⟨text, htext, htrim⟩ := Option.map_eq_some_iff.mp htarget.aggregation
        rw [htext, Option.map_some, htrim]
        rfl
      measurement := htarget.measurement
      benchmark := ⟨target.benchmark, htarget.benchmark, hbenchmark⟩
      deltaFunctions := hdeltas
      partition := hpartition }

/-- Settings yield at most one query. -/
theorem Yields.unique {s : Settings} {catalog : Catalog} (h : catalog.Keyed) {q q' : Query}
    (hq : s.Yields catalog q) (hq' : s.Yields catalog q') : q = q' := by
  obtain ⟨cube, hcube, ⟨hgamma, hlevels⟩, hsigma, hpredicates⟩ := hq.clauses
  obtain ⟨cube', hcube', ⟨hgamma', hlevels'⟩, hsigma', hpredicates'⟩ := hq'.clauses
  cases hcube.unique h hcube'
  have htarget : q.targetCube = q'.targetCube :=
    Option.some_inj.mp (hq.targetCube.symm.trans hq'.targetCube)
  have hmeasurement : q.measurement = q'.measurement :=
    Option.some_inj.mp (hq.measurement.symm.trans hq'.measurement)
  have hbenchmark : q.benchmark = q'.benchmark := by
    obtain ⟨setting, hsetting, hgives⟩ := hq.benchmark
    obtain ⟨setting', hsetting', hgives'⟩ := hq'.benchmark
    cases hsetting.symm.trans hsetting'
    cases setting with
    | typed spec => exact hgives.trans hgives'.symm
    | details fields => exact Except.ok.inj (hgives.symm.trans hgives')
  have hdeltas : q.deltaFunctions = q'.deltaFunctions :=
    List.map_injective_iff.mpr (Option.some_injective _)
      (hq.deltaFunctions.symm.trans hq'.deltaFunctions)
  have hgamma : q.gamma = q'.gamma :=
    congrArg GammaClause.mk (eq_of_pairwise_lt hgamma hgamma' fun r => by rw [hlevels, hlevels'])
  have hsigma : q.sigma = q'.sigma :=
    congrArg SigmaClause.mk
      (eq_of_pairwise_lt hsigma hsigma' fun p => by rw [hpredicates, hpredicates'])
  have hname : q.name = q'.name := by rw [hq.name, hq'.name, htarget, hmeasurement]
  have haggregation : q.aggregation = q'.aggregation :=
    Option.some_inj.mp (hq.aggregation.symm.trans hq'.aggregation)
  have hpartition : q.partition = q'.partition :=
    Except.ok.inj (hq.partition.symm.trans hq'.partition)
  cases q
  cases q'
  rw [Query.mk.injEq]
  exact ⟨htarget, hname, haggregation, hmeasurement, hgamma, hsigma, hbenchmark, hdeltas,
    hpartition⟩

/-- **A build blames the first fault, and yields its query when there is none.** Over every catalog
of cubes it fails with exactly the fault that its checks blame, and gives exactly the query that its
settings yield when all checks pass. -/
theorem build_error_iff_blames_and_ok_iff_yields (s : Settings) (cubes : List Cube) :
    (∀ e, s.build (.ofList cubes) = .error e ↔ Blames (s.checks (.ofList cubes)) e) ∧
    ∀ q, s.build (.ofList cubes) = .ok q ↔
      Passes (s.checks (.ofList cubes)) ∧ s.Yields (.ofList cubes) q := by
  have hkeyed := Catalog.keyed_ofList cubes
  have hobeys := obeys_build s hkeyed
  refine ⟨hobeys.error_iff, fun q => ⟨fun hq => ⟨?_, hobeys.good q hq⟩, ?_⟩⟩
  · exact hobeys.exists_ok_iff.mp ⟨q, hq⟩
  · rintro ⟨hpasses, hyields⟩
    obtain ⟨q', hq'⟩ := hobeys.exists_ok_iff.mpr hpasses
    rw [hq', (hobeys.good q' hq').unique hkeyed hyields]

end Settings

end CubeAssessment
