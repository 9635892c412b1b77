import CubeAssessment.Assessment.Session
import CubeAssessment.Proofs.Assessment.OrderIndependence
import CubeAssessment.Proofs.Collections.Traversal
import CubeAssessment.Proofs.Labeling.Rows
import Mathlib.Data.List.Induction

/-! # Settings without a history

What a step of a session writes is a list of setting changes (`SessionStep.writes`), so the settings
after a run are those before it, changed in turn (`Session.settings_run`). Of all changes of one
setting only the last leaves a trace (`Settings.agree_foldl_change`), and a build reads nothing but
the settings. Hence two builds give the same whenever the last values written before them are the
same, and a request that is loaded leaves nothing of what was set before
(`Session.run_keeps_no_history`). -/

namespace CubeAssessment

/-! ## The eight settings -/

/-- The settings of an assessment. -/
inductive Setting where
  /-- The cube to assess. -/
  | targetCube
  /-- The literals to select by. -/
  | selection
  /-- The levels to group by. -/
  | groupBy
  /-- The aggregation function. -/
  | aggregation
  /-- The measurement. -/
  | measurement
  /-- The benchmark, typed or by its details. -/
  | benchmark
  /-- The delta functions. -/
  | deltaFunctions
  /-- The labeling rules. -/
  | rules
  deriving DecidableEq, Repr

namespace SettingChange

/-- The setting that a change writes. -/
def setting : SettingChange → Setting
  | targetCube _ => .targetCube
  | selection _ => .selection
  | groupBy _ => .groupBy
  | aggregation _ => .aggregation
  | measurement _ => .measurement
  | benchmark _ => .benchmark
  | benchmarkDetails _ => .benchmark
  | deltaFunctions _ => .deltaFunctions
  | rules _ => .rules

/-- **Two changes write the same value.** The names to group by are a set and the literals to select
by a map; every other value is taken as it is. -/
inductive SameValue : SettingChange → SettingChange → Prop
  /-- A change writes the value it writes. -/
  | refl (change : SettingChange) : SameValue change change
  /-- Names to group by are the same set. -/
  | groupBy {names names' : List String} (hnames : ∀ name, name ∈ names ↔ name ∈ names') :
      SameValue (groupBy names) (groupBy names')
  /-- Literals to select by are the same map. -/
  | selection {pairs pairs' : List (String × String)}
      (hpairs : NameMap.ofList pairs = NameMap.ofList pairs') :
      SameValue (selection pairs) (selection pairs')

end SettingChange

/-- **The last value written to a setting**, if any was. -/
def lastWritten (setting : Setting) (changes : List SettingChange) : Option SettingChange :=
  changes.findRev? fun change => change.setting == setting

/-- What is written last is the last value of its setting, and of no other. -/
theorem lastWritten_concat (setting : Setting) (changes : List SettingChange)
    (change : SettingChange) : lastWritten setting (changes ++ [change]) =
      if change.setting = setting then some change else lastWritten setting changes := by
  simp only [lastWritten, findRev?_concat, beq_iff_eq]

namespace Settings

/-- **Two records hold the same value of a setting**, names to group by as a set. -/
def Agree (s s' : Settings) : Setting → Prop
  | .targetCube => s.targetCube = s'.targetCube
  | .selection => s.selection = s'.selection
  | .groupBy => ∀ name, name ∈ s.groupBy ↔ name ∈ s'.groupBy
  | .aggregation => s.aggregation = s'.aggregation
  | .measurement => s.measurement = s'.measurement
  | .benchmark => s.benchmark = s'.benchmark
  | .deltaFunctions => s.deltaFunctions = s'.deltaFunctions
  | .rules => s.rules = s'.rules

variable {s s' s'' : Settings} {setting : Setting}

theorem Agree.refl (s : Settings) (setting : Setting) : s.Agree s setting := by
  cases setting <;> simp [Agree]

theorem Agree.symm (h : s.Agree s' setting) : s'.Agree s setting := by
  cases setting <;> simp_all [Agree]

theorem Agree.trans (h : s.Agree s' setting) (h' : s'.Agree s'' setting) :
    s.Agree s'' setting := by
  cases setting <;> simp_all [Agree]

/-- **A change leaves the other settings as they are.** -/
theorem change_agree_of_ne {change : SettingChange} (h : change.setting ≠ setting) :
    (s.change change).Agree s setting := by
  cases change <;> cases setting <;> simp_all [Agree, Settings.change, SettingChange.setting]

/-- **A setting that is written holds the value written**, whatever it held before. -/
theorem change_agree_of_sameValue {change change' : SettingChange}
    (h : change.SameValue change') (hsetting : change.setting = setting) :
    (s.change change).Agree (s'.change change') setting := by
  subst hsetting
  cases h with
  | refl => cases change <;> simp [Agree, Settings.change, SettingChange.setting]
  | groupBy hnames => exact hnames
  | selection hpairs => exact hpairs

/-- **Of changes made in turn, the last one of a setting decides what it holds**, and a setting that
none of them writes is left as it is. -/
theorem agree_foldl_change (s : Settings) (changes : List SettingChange) (setting : Setting) :
    (changes.foldl Settings.change s).Agree
      ((lastWritten setting changes).elim s s.change) setting := by
  -- the change made last either writes the setting or leaves what the others made of it
  induction changes using List.reverseRecOn with
  | nil => exact Agree.refl s setting
  | append_singleton changes change ih =>
    rw [List.foldl_concat, lastWritten_concat]
    by_cases hsetting : change.setting = setting
    · rw [if_pos hsetting]
      exact change_agree_of_sameValue (.refl change) hsetting
    · rw [if_neg hsetting]
      exact (change_agree_of_ne hsetting).trans ih

/-- The last value written to a setting is one of that setting. -/
theorem setting_of_lastWritten_eq_some {changes : List SettingChange} {change : SettingChange}
    (h : lastWritten setting changes = some change) : change.setting = setting := by
  simpa using (findRev?_eq_some_iff.mp h).1

/-- **Changes that write the same value last leave the same value**, from the same settings on. -/
theorem agree_foldl_of_lastWritten {changes changes' : List SettingChange}
    (h : Option.Rel SettingChange.SameValue (lastWritten setting changes)
      (lastWritten setting changes')) :
    (changes.foldl Settings.change s).Agree (changes'.foldl Settings.change s) setting := by
  have hleft := agree_foldl_change s changes setting
  have hright := agree_foldl_change s changes' setting
  cases hlast : lastWritten setting changes with
  | none =>
    cases hlast' : lastWritten setting changes' with
    | none =>
      rw [hlast] at hleft
      rw [hlast'] at hright
      exact hleft.trans hright.symm
    | some change' =>
      rw [hlast, hlast'] at h
      cases h
  | some change =>
    cases hlast' : lastWritten setting changes' with
    | none =>
      rw [hlast, hlast'] at h
      cases h
    | some change' =>
      rw [hlast, hlast'] at h
      rw [hlast] at hleft
      rw [hlast'] at hright
      cases h with
      | some hsame =>
        have hwritten : (s.change change).Agree (s.change change') setting :=
          change_agree_of_sameValue hsame (setting_of_lastWritten_eq_some hlast)
        exact hleft.trans (hwritten.trans hright.symm)

/-- **A build reads nothing but the eight settings**, the names to group by as a set. -/
theorem buildReport_congr (h : ∀ setting, s.Agree s' setting) (catalog : Catalog) :
    s.buildReport catalog = s'.buildReport catalog := by
  have hsame : s' = { s with groupBy := s'.groupBy } := by
    obtain ⟨targetCube, selection, groupBy, aggregation, measurement, benchmark, deltaFunctions,
      rules⟩ := s'
    rw [Settings.mk.injEq]
    exact ⟨(h .targetCube).symm, (h .selection).symm, rfl, (h .aggregation).symm,
      (h .measurement).symm, (h .benchmark).symm, (h .deltaFunctions).symm, (h .rules).symm⟩
  have hnames : ∀ name, name ∈ s.groupBy ↔ name ∈ s'.groupBy := h .groupBy
  rw [hsame]
  -- the first and the last stage do not read the names to group by
  exact buildReportInOrder_congr hnames fun _ => Iff.rfl

/-! ## Requests -/

/-- The settings of a request, with its labels as rules. -/
def ofRequest (request : Request) (rules : List LabelingRule) : Settings where
  targetCube := some request.targetCube
  selection := request.selection
  groupBy := request.groupBy
  aggregation := some request.aggregation
  measurement := some request.measurement
  benchmark := some (.details request.benchmark)
  deltaFunctions := request.deltaFunctions
  rules := rules

/-- **The changes that load a request write every setting.** -/
theorem foldl_changes_eq_ofRequest (s : Settings) (request : Request)
    (rules : List LabelingRule) :
    (request.changes rules).foldl Settings.change s = ofRequest request rules := by
  simp [Request.changes, Settings.change, ofRequest]

/-- **A request is loaded or refused by its labels**, and one that is refused leaves the settings as
they were. -/
theorem load_eq (s : Settings) (request : Request) : load request s =
    match LabelingRule.ofRows request.labels with
    | .ok rules => .ok () (ofRequest request rules)
    | .error e => .error e s := by
  rw [load]
  cases LabelingRule.ofRows request.labels with
  | ok rules => exact congrArg (EStateM.Result.ok ()) (foldl_changes_eq_ofRequest s request rules)
  | error e => rfl

/-- **A request is loaded when its labels are rules**, and then nothing is left of what was set. -/
theorem load_eq_ok_iff {request : Request} :
    load request s = .ok () s' ↔
      ∃ rules, rules.map LabelingRule.fields = request.labels ∧ s' = ofRequest request rules := by
  simp only [← LabelingRule.ofRows_eq_ok_iff, load_eq]
  cases LabelingRule.ofRows request.labels with
  | ok rules => simp [eq_comm]
  | error e => exact iff_of_false nofun nofun

/-- A request is refused for its first label row that does not have five fields, and then nothing is
changed. -/
theorem load_eq_error_iff {request : Request} {e : LabelingError} :
    load request s = .error e s' ↔ s' = s ∧ ∃ front row back,
      request.labels = front ++ row :: back ∧ (∀ r ∈ front, r.length = 5) ∧ row.length ≠ 5 ∧
        e = .malformedRule front.length row.length := by
  rw [← LabelingRule.ofRows_eq_error_iff, load_eq]
  cases LabelingRule.ofRows request.labels with
  | ok rules => exact iff_of_false nofun nofun
  | error e' => simp [and_comm, eq_comm]

end Settings

/-! ## Steps and runs -/

/-- **What a step writes**, in the order in which it does. Rows that are no rules write nothing. -/
def SessionStep.writes : SessionStep → List SettingChange
  | .change written => [written]
  | .labels rows =>
      if ∀ row ∈ rows, row.length = 5 then [.rules (rows.filterMap LabelingRule.ofFields)] else []
  | .load request =>
      if ∀ row ∈ request.labels, row.length = 5 then
        request.changes (request.labels.filterMap LabelingRule.ofFields)
      else []
  | .build => []
  | .label _ => []
  | .assess _ _ => []

/-- The report of a build that a step answers with. -/
def SessionReply.report? : SessionReply → Option BuildReport
  | .built report _ => some report
  | _ => none

namespace Session

variable {catalog : Catalog} {s s' : Session}

/-- A request is loaded when each of its label rows has five fields. -/
theorem step_load_of_forall {request : Request} (h : ∀ row ∈ request.labels, row.length = 5) :
    s.step catalog (.load request) = (⟨Settings.ofRequest request
      (request.labels.filterMap LabelingRule.ofFields), s.lastQuery⟩, .done) := by
  have hload : Settings.load request s.settings = .ok () (Settings.ofRequest request
      (request.labels.filterMap LabelingRule.ofFields)) :=
    Settings.load_eq_ok_iff.mpr ⟨_, LabelingRule.map_fields_filterMap_ofFields h, rfl⟩
  simp only [step, hload]

/-- **A request is refused for its first label row that does not have five fields**, and then
nothing is changed. -/
theorem step_load_eq_refused_iff {request : Request} {error : BuildError} :
    s.step catalog (.load request) = (s', .requestRefused error) ↔ s' = s ∧
      ∃ front row back, request.labels = front ++ row :: back ∧ (∀ r ∈ front, r.length = 5) ∧
        row.length ≠ 5 ∧ error = .labeling (.malformedRule front.length row.length) := by
  have hrefused : s.step catalog (.load request) = (s', .requestRefused error) ↔
      ∃ e settings, Settings.load request s.settings = .error e settings ∧
        s' = { s with settings } ∧ error = .labeling e := by
    cases hload : Settings.load request s.settings with
    | ok _ settings => simp [step, hload]
    | error e settings => simp [step, hload, eq_comm]
  rw [hrefused]
  constructor
  · rintro ⟨e, settings, hload, rfl, rfl⟩
    obtain ⟨rfl, front, row, back, hrows, hfront, hrow, rfl⟩ :=
      Settings.load_eq_error_iff.mp hload
    exact ⟨rfl, front, row, back, hrows, hfront, hrow, rfl⟩
  · rintro ⟨rfl, front, row, back, hrows, hfront, hrow, rfl⟩
    exact ⟨_, _, Settings.load_eq_error_iff.mpr ⟨rfl, front, row, back, hrows, hfront, hrow, rfl⟩,
      rfl, rfl⟩

/-- **A step changes the settings by what it writes.** -/
theorem settings_step (catalog : Catalog) (s : Session) (next : SessionStep) :
    (s.step catalog next).1.settings = next.writes.foldl Settings.change s.settings := by
  cases next with
  | change written => rfl
  | labels rows =>
    by_cases h : ∀ row ∈ rows, row.length = 5
    · simp only [step, LabelingRule.ofRows_of_forall h, SessionStep.writes, if_pos h]
      rfl
    · obtain ⟨e, he⟩ := LabelingRule.exists_ofRows_eq_error h
      simp only [step, he, SessionStep.writes, if_neg h]
      rfl
  | load request =>
    by_cases h : ∀ row ∈ request.labels, row.length = 5
    · rw [step_load_of_forall h, SessionStep.writes, if_pos h,
        Settings.foldl_changes_eq_ofRequest]
    · obtain ⟨e, he⟩ := LabelingRule.exists_ofRows_eq_error h
      simp only [step, Settings.load_eq, he, SessionStep.writes, if_neg h]
      rfl
  | build =>
    simp only [step]
    cases (s.settings.buildReport catalog).outcome <;> rfl
  | label delta =>
    simp only [step]
    cases s.lastQuery <;> rfl
  | assess current benchmark =>
    simp only [step]
    cases s.lastQuery <;> rfl

/-- **A run changes the settings by what its steps write.** -/
theorem settings_run (catalog : Catalog) (s : Session) (steps : List SessionStep) :
    (s.run catalog steps).1.settings =
      (steps.flatMap SessionStep.writes).foldl Settings.change s.settings := by
  induction steps generalizing s with
  | nil => rfl
  | cons next rest ih =>
    rw [List.flatMap_cons, List.foldl_append, ← settings_step catalog s next, ← ih]
    rfl

/-- **The reply to a step of a run is the reply to it after the steps before.** -/
theorem getElem?_replies_run (catalog : Catalog) (s : Session) (steps : List SessionStep)
    (i : Nat) : (s.run catalog steps).2[i]? =
      steps[i]?.map fun next => ((s.run catalog (steps.take i)).1.step catalog next).2 := by
  induction steps generalizing s i with
  | nil => rfl
  | cons next rest ih =>
    cases i with
    | zero => rfl
    | succ i => exact ih (s.step catalog next).1 i

/-- A step answers with a report when it is a build, and that is the report of the settings. -/
theorem report?_step (catalog : Catalog) (s : Session) (next : SessionStep) :
    (s.step catalog next).2.report? =
      if next = .build then some (s.settings.buildReport catalog) else none := by
  cases next with
  | change written => rfl
  | labels rows =>
    simp only [step]
    cases LabelingRule.ofRows rows <;> rfl
  | load request =>
    simp only [step]
    cases Settings.load request s.settings <;> rfl
  | build =>
    simp only [step]
    cases (s.settings.buildReport catalog).outcome <;> rfl
  | label delta =>
    simp only [step]
    cases s.lastQuery <;> rfl
  | assess current benchmark =>
    simp only [step]
    cases s.lastQuery <;> rfl

/-- **The report of a build of a run is that of the settings made of what was written before.** -/
theorem report?_run (catalog : Catalog) (s : Session) {steps : List SessionStep} {i : Nat}
    (h : steps[i]? = some .build) : (s.run catalog steps).2[i]?.bind SessionReply.report? =
      some ((((steps.take i).flatMap SessionStep.writes).foldl Settings.change
        s.settings).buildReport catalog) := by
  rw [getElem?_replies_run, h, Option.map_some, Option.bind_some, report?_step, if_pos rfl,
    settings_run]

/-- **Runs from the same settings report the same**, whatever was built before. -/
theorem reports_run_congr (h : s.settings = s'.settings) (steps : List SessionStep) :
    (s.run catalog steps).2.map SessionReply.report? =
      (s'.run catalog steps).2.map SessionReply.report? := by
  induction steps generalizing s s' with
  | nil => rfl
  | cons next rest ih =>
    have hsettings : (s.step catalog next).1.settings = (s'.step catalog next).1.settings := by
      rw [settings_step, settings_step, h]
    have hreport : (s.step catalog next).2.report? = (s'.step catalog next).2.report? := by
      rw [report?_step, report?_step, h]
    simp only [run, List.map_cons, hreport, ih hsettings]

/-- **A session keeps no hidden history.** After a run from the start each setting holds what was
last written to it, and two builds report the same when each setting was last written the same value
before them, or never. A build writes no setting. A request is refused exactly when a row of its
labels does not have five fields, for the first such row with its position and its length, and then
nothing is written; any other request writes all settings, and every build after it reports what it
would had the request been loaded at the start. -/
theorem run_keeps_no_history (catalog : Catalog) :
    (∀ (steps : List SessionStep) (setting : Setting),
      (initial.run catalog steps).1.settings.Agree
        ((lastWritten setting (steps.flatMap SessionStep.writes)).elim initial.settings
          initial.settings.change) setting) ∧
    (∀ (steps steps' : List SessionStep) (i j : Nat),
      steps[i]? = some .build → steps'[j]? = some .build →
      (∀ setting, Option.Rel SettingChange.SameValue
        (lastWritten setting ((steps.take i).flatMap SessionStep.writes))
        (lastWritten setting ((steps'.take j).flatMap SessionStep.writes))) →
      ∃ report, (initial.run catalog steps).2[i]?.bind SessionReply.report? = some report ∧
        (initial.run catalog steps').2[j]?.bind SessionReply.report? = some report) ∧
    (∀ s : Session, (s.step catalog .build).1.settings = s.settings) ∧
    (∀ (s s' : Session) (request : Request) (error : BuildError),
      s.step catalog (.load request) = (s', .requestRefused error) ↔ s' = s ∧
        ∃ front row back, request.labels = front ++ row :: back ∧ (∀ r ∈ front, r.length = 5) ∧
          row.length ≠ 5 ∧ error = .labeling (.malformedRule front.length row.length)) ∧
    ∀ (s : Session) (request : Request), (∀ row ∈ request.labels, row.length = 5) →
      (∃ rules, rules.map LabelingRule.fields = request.labels ∧
        s.step catalog (.load request) = (⟨.ofRequest request rules, s.lastQuery⟩, .done)) ∧
      ∀ steps, (s.run catalog (.load request :: steps)).2.map SessionReply.report? =
        (initial.run catalog (.load request :: steps)).2.map SessionReply.report? := by
  refine ⟨fun steps setting => ?_, fun steps steps' i j hi hj hlast => ?_,
    fun s => settings_step catalog s .build, fun s s' request error => step_load_eq_refused_iff,
    fun s request hrows => ⟨?_, fun steps => ?_⟩⟩
  · rw [settings_run]
    exact Settings.agree_foldl_change _ _ setting
  · have hsame := Settings.buildReport_congr (fun setting =>
      Settings.agree_foldl_of_lastWritten (s := initial.settings) (hlast setting)) catalog
    exact ⟨_, report?_run catalog initial hi, by rw [report?_run catalog initial hj, ← hsame]⟩
  · exact ⟨_, LabelingRule.map_fields_filterMap_ofFields hrows, step_load_of_forall hrows⟩
  · have hloaded : (s.step catalog (.load request)).1.settings =
        (initial.step catalog (.load request)).1.settings := by
      rw [step_load_of_forall hrows, step_load_of_forall hrows]
    have hreply : (s.step catalog (.load request)).2 =
        (initial.step catalog (.load request)).2 := by
      rw [step_load_of_forall hrows, step_load_of_forall hrows]
    simp only [run, List.map_cons, hreply, reports_run_congr hloaded steps]

/-- A target set earlier, a refused request and a build before leave no trace in what is reported
for the sales. -/
theorem reports_alike_after_refusal : ∃ report,
    (initial.run (.ofList [⟨"Sales", []⟩]) [.change (.targetCube "Stock"),
      .load ⟨"Stock", .empty, ["month"], "sum", "amount", [], [], [["(", "-inf"]]⟩,
      .change (.targetCube "Sales"), .change (.groupBy ["day", "month"]),
      .build]).2[4]?.bind SessionReply.report? = some report ∧
    (initial.run (.ofList [⟨"Sales", []⟩]) [.build, .change (.groupBy ["month", "day", "month"]),
      .change (.targetCube "Sales"), .build]).2[3]?.bind SessionReply.report? = some report := by
  refine (run_keeps_no_history _).2.1 _ _ 4 3 rfl rfl fun setting => ?_
  cases setting with
  | targetCube => exact .some (.refl _)
  | groupBy => exact .some (.groupBy (by simp [or_comm]))
  | selection => exact .none
  | aggregation => exact .none
  | measurement => exact .none
  | benchmark => exact .none
  | deltaFunctions => exact .none
  | rules => exact .none

end Session

end CubeAssessment
