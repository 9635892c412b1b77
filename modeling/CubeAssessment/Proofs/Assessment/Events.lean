import CubeAssessment.Proofs.Assessment.Blame
import CubeAssessment.Proofs.Labeling.Cover

/-! # What a build logs

A build logs an event behind each of its stages, and how many it has logged tells where it ended:
each stage fails with errors of its own (`Settings.eventsBefore_of_target` and the lemmas after it).
`Settings.announcements` lists, for settings and a catalog, the four events that a build can log,
said without the build. What is logged is a prefix of these, as long as the outcome tells, and on
success it says what the query says (`Settings.buildReportInOrder_matches`). -/

namespace CubeAssessment

/-- How many events are logged before a build fails with an error: those of the stages that were
passed. -/
def BuildError.eventsBefore : BuildError → ℕ
  | missingField _ => 0
  | cubeNotFound _ => 0
  | levelResolutionFailed _ => 1
  | invalidBenchmark _ => 2
  | invalidDeltaFunction _ => 2
  | labeling _ => 2

/-- How many events are logged by a build of some outcome. -/
def eventsUntil : Except BuildError Query → ℕ
  | .error e => e.eventsBefore
  | .ok _ => 4

/-- **The log of a build matches its outcome**: what is logged is the beginning of what is
announced, its length tells the outcome, and on success it says what the query says. -/
structure BuildReport.Matches (r : BuildReport) (announced : List (Option BuildEvent)) : Prop where
  /-- The events are the first of those announced. -/
  logged : r.events.map some <+: announced
  /-- Nothing is logged exactly when a required setting is missing or the cube is not found. -/
  length_eq_zero_iff : r.events.length = 0 ↔
    (∃ field, r.outcome = .error (.missingField field)) ∨
      ∃ name, r.outcome = .error (.cubeNotFound name)
  /-- One event is logged exactly when a name does not resolve. -/
  length_eq_one_iff : r.events.length = 1 ↔
    ∃ cause, r.outcome = .error (.levelResolutionFailed cause)
  /-- Two events are logged exactly when the benchmark, a delta function or the rules are not
  valid. -/
  length_eq_two_iff : r.events.length = 2 ↔
    (∃ cause, r.outcome = .error (.invalidBenchmark cause)) ∨
      (∃ name, r.outcome = .error (.invalidDeltaFunction name)) ∨
        ∃ cause, r.outcome = .error (.labeling cause)
  /-- There are never just three events. -/
  length_ne_three : r.events.length ≠ 3
  /-- Four events are logged exactly when there is a query. -/
  length_eq_four_iff : r.events.length = 4 ↔ ∃ q, r.outcome = .ok q
  /-- The events tell the cube, the clauses, the number of intervals, the name and the benchmark of
  the query. -/
  events_of_ok : ∀ q, r.outcome = .ok q → r.events = [.resolvedCube q.targetCube,
    .builtClauses q.gamma.text q.sigma.text, .compiledPartition q.partition.size,
    .builtQuery q.name q.benchmark.text]

/-- A log matches when it is as long as the outcome tells. -/
theorem BuildReport.Matches.of_length {r : BuildReport} {announced : List (Option BuildEvent)}
    (hlength : r.events.length = eventsUntil r.outcome) (hlogged : r.events.map some <+: announced)
    (hok : ∀ q, r.outcome = .ok q → r.events = [.resolvedCube q.targetCube,
      .builtClauses q.gamma.text q.sigma.text, .compiledPartition q.partition.size,
      .builtQuery q.name q.benchmark.text]) : r.Matches announced := by
  obtain ⟨outcome, events⟩ := r
  dsimp only at hlength hlogged hok
  constructor
  case logged => exact hlogged
  case events_of_ok => exact hok
  all_goals
    dsimp only
    rw [hlength]
    cases outcome with
    | error e => cases e <;> simp [eventsUntil, BuildError.eventsBefore]
    | ok q => simp [eventsUntil]

namespace Settings

variable {s : Settings} {catalog : Catalog} {names : List String} {pairs : List (String × String)}

/-! ## The errors of each stage -/

/-- The first stage fails before anything is logged. -/
theorem eventsBefore_of_target {e : BuildError} (h : s.target catalog = .error e) :
    e.eventsBefore = 0 := by
  have hrequired : ∀ {field value}, required field value = .error e → e.eventsBefore = 0 := by
    intro field value h
    obtain ⟨-, rfl⟩ := blames_singleton.mp (((obeys_required field value).error_iff e).mp h)
    rfl
  rw [target] at h
  rcases bind_eq_error_iff.mp h with h | ⟨cubeName, -, h⟩
  · exact hrequired h
  rcases bind_eq_error_iff.mp h with h | ⟨aggregation, -, h⟩
  · exact hrequired h
  rcases bind_eq_error_iff.mp h with h | ⟨measurement, -, h⟩
  · exact hrequired h
  dsimp only at h
  split at h
  · cases h
    rfl
  · split at h
    · cases h
      rfl
    · split at h
      · cases h
        rfl
      · cases h

/-- The second stage fails after one event. -/
theorem eventsBefore_of_clauses {cube : Cube} {e : BuildError}
    (h : clauses cube names pairs = .error e) : e.eventsBefore = 1 := by
  have hblamed := ((obeys_clauses cube names pairs).error_iff e).mp h
  obtain ⟨check, hcheck, he⟩ := hblamed.exists_mem
  rw [List.mem_pair] at hcheck
  rcases hcheck with rfl | rfl
  all_goals
    obtain ⟨cause, -, -, rfl⟩ := he
    rfl

/-- The last stage fails after two events. -/
theorem eventsBefore_of_measure {benchmark : BenchmarkSetting} {e : BuildError}
    (h : s.measure benchmark = .error e) : e.eventsBefore = 2 := by
  have hblamed := ((obeys_measure s benchmark).error_iff e).mp h
  obtain ⟨check, hcheck, he⟩ := hblamed.exists_mem
  rw [List.mem_cons, List.mem_pair] at hcheck
  rcases hcheck with rfl | rfl | rfl
  · obtain ⟨details, cause, -, -, rfl⟩ := he
    rfl
  · obtain ⟨known, name, others, -, -, -, rfl⟩ := he
    rfl
  · obtain ⟨cause, -, rfl⟩ := he
    rfl

/-! ## Announced events -/

/-- The event of the clauses of a cube, if they can be built. -/
def announcedClauses (cube : Cube) (names : List String) (pairs : List (String × String)) :
    Option BuildEvent := do
  let gamma ← (GammaClause.build cube names).toOption
  let sigma ← (SigmaClause.build cube pairs).toOption
  return .builtClauses gamma.text sigma.text

/-- The event of a query over a cube, if its benchmark is given and valid. -/
def announcedQuery (cubeName measurement : String) (benchmark : BenchmarkSetting) :
    Option BuildEvent :=
  (typedBenchmark benchmark).toOption.map fun spec =>
    .builtQuery (cubeName ++ "_" ++ measurement) spec.text

/-- **The events that a build can log**, in order, as far as the settings and the catalog have what
they tell: the lower-cased name of the cube asked for, the texts of the clauses in that cube, the
number of rules, and the name of the query with the text of its benchmark. -/
def announcements (s : Settings) (catalog : Catalog) (names : List String)
    (pairs : List (String × String)) : List (Option BuildEvent) :=
  let cubeName := s.targetCube.map fun text => Text.lower (Text.trim text)
  [ cubeName.map .resolvedCube,
    (cubeName.bind catalog.find?).bind fun cube => announcedClauses cube names pairs,
    some (.compiledPartition s.rules.length),
    cubeName.bind fun name => (s.measurement.map Text.trim).bind fun measurement =>
      s.benchmark.bind fun benchmark => announcedQuery name measurement benchmark ]

/-- The announcements over the cube that the first stage finds. -/
theorem announcements_of_target {t : Target} (h : s.target catalog = .ok t) :
    s.announcements catalog names pairs = [some (.resolvedCube t.cubeName),
      announcedClauses t.cube names pairs, some (.compiledPartition s.rules.length),
      announcedQuery t.cubeName t.measurement t.benchmark] := by
  obtain ⟨hname, hcube, hmeasurement, hbenchmark⟩ := of_target_eq_ok h
  rw [announcements, hname, hmeasurement, hbenchmark, Option.bind_some, hcube]
  rfl

/-- The clauses that the second stage finds are announced. -/
theorem announcedClauses_of_clauses {cube : Cube} {gamma : GammaClause} {sigma : SigmaClause}
    (h : clauses cube names pairs = .ok (gamma, sigma)) :
    announcedClauses cube names pairs = some (.builtClauses gamma.text sigma.text) := by
  rw [clauses] at h
  obtain ⟨_, hgamma, h⟩ := bind_eq_ok_iff.mp h
  obtain ⟨_, hsigma, h⟩ := bind_eq_ok_iff.mp h
  cases h
  rw [announcedClauses, mapError_eq_ok_iff.mp hgamma, mapError_eq_ok_iff.mp hsigma]
  rfl

/-- The query whose measure the last stage finds is announced. -/
theorem announcedQuery_of_measure {cubeName measurement : String} {benchmark : BenchmarkSetting}
    {m : Measure} (h : s.measure benchmark = .ok m) :
    announcedQuery cubeName measurement benchmark =
      some (.builtQuery (cubeName ++ "_" ++ measurement) m.benchmark.text) := by
  rw [measure] at h
  obtain ⟨spec, hspec, h⟩ := bind_eq_ok_iff.mp h
  obtain ⟨_, -, h⟩ := bind_eq_ok_iff.mp h
  obtain ⟨_, -, h⟩ := bind_eq_ok_iff.mp h
  cases h
  rw [announcedQuery, hspec]
  rfl

/-! ## Logged events -/

/-- **How a build ends**: in its first stage, with nothing logged; in its second, with the cube; in
its last, with the clauses too; or with a query and all four events. -/
theorem buildReportInOrder_cases (s : Settings) (catalog : Catalog) (names : List String)
    (pairs : List (String × String)) :
    (∃ e, s.target catalog = .error e ∧
      s.buildReportInOrder catalog names pairs = ⟨.error e, []⟩) ∨
    ∃ t, s.target catalog = .ok t ∧
      ((∃ e, clauses t.cube names pairs = .error e ∧
        s.buildReportInOrder catalog names pairs = ⟨.error e, [.resolvedCube t.cubeName]⟩) ∨
      ∃ gamma sigma, clauses t.cube names pairs = .ok (gamma, sigma) ∧
        ((∃ e, s.measure t.benchmark = .error e ∧
          s.buildReportInOrder catalog names pairs = ⟨.error e, [.resolvedCube t.cubeName,
            .builtClauses gamma.text sigma.text]⟩) ∨
        ∃ m, s.measure t.benchmark = .ok m ∧
          s.buildReportInOrder catalog names pairs = ⟨.ok (Query.ofStages t gamma sigma m),
            [.resolvedCube t.cubeName, .builtClauses gamma.text sigma.text,
              .compiledPartition m.partition.size,
              .builtQuery (t.cubeName ++ "_" ++ t.measurement) m.benchmark.text]⟩)) := by
  rw [buildReportInOrder]
  cases htarget : s.target catalog with
  | error e => exact Or.inl ⟨e, rfl, rfl⟩
  | ok t =>
      refine Or.inr ⟨t, rfl, ?_⟩
      dsimp only
      cases hclauses : clauses t.cube names pairs with
      | error e => exact Or.inl ⟨e, rfl, rfl⟩
      | ok found =>
          obtain ⟨gamma, sigma⟩ := found
          refine Or.inr ⟨gamma, sigma, rfl, ?_⟩
          dsimp only
          cases hmeasure : s.measure t.benchmark with
          | error e => exact Or.inl ⟨e, rfl, rfl⟩
          | ok m => exact Or.inr ⟨m, rfl, rfl⟩

/-- **What a build logs matches how it ends**, for all settings and catalogs and in whatever order
the build goes through the group-by names and the selection pairs. -/
theorem buildReportInOrder_matches (s : Settings) (catalog : Catalog) (names : List String)
    (pairs : List (String × String)) : (s.buildReportInOrder catalog names pairs).Matches
      (s.announcements catalog names pairs) := by
  rcases s.buildReportInOrder_cases catalog names pairs with ⟨e, htarget, h⟩ | ⟨t, htarget, h⟩
  · rw [h]
    exact .of_length (eventsBefore_of_target htarget).symm List.nil_prefix nofun
  -- from here on the cube is known, and each further stage settles one more announcement
  rw [announcements_of_target htarget]
  rcases h with ⟨e, hclauses, h⟩ | ⟨gamma, sigma, hclauses, h⟩
  · rw [h]
    exact .of_length (eventsBefore_of_clauses hclauses).symm (List.prefix_append [_] _) nofun
  rw [announcedClauses_of_clauses hclauses]
  rcases h with ⟨e, hmeasure, h⟩ | ⟨m, hmeasure, h⟩
  · rw [h]
    exact .of_length (eventsBefore_of_measure hmeasure).symm (List.prefix_append [_, _] _)
      nofun
  · -- a partition has an interval for each rule, so the announced number is the logged one
    have hcompile := ((obeys_measure s t.benchmark).good m hmeasure).2.2
    rw [announcedQuery_of_measure hmeasure, ← LabelPartition.size_of_compile hcompile, h]
    refine .of_length rfl (List.prefix_refl _) fun q hq => ?_
    cases hq
    rfl

end Settings

end CubeAssessment
