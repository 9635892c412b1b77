import CubeAssessment.Assessment.Build

/-! # Sessions

A session keeps the settings of an assessment between builds, together with the query built last.
Settings change and requests load in any order; a build reads the settings and changes none. -/

namespace CubeAssessment

/-- The state of a session. -/
structure Session where
  /-- The current settings. -/
  settings : Settings
  /-- The query of the last build that succeeded. -/
  lastQuery : Option Query
  deriving DecidableEq, Repr

/-- One step of a session. -/
inductive SessionStep where
  /-- Change a setting. -/
  | change (change : SettingChange)
  /-- Set the labeling rules from rows of fields. -/
  | labels (rows : List (List String))
  /-- Load every setting from a request. -/
  | load (request : Request)
  /-- Build a query. -/
  | build
  /-- Label a delta value with the last query. -/
  | label (delta : Binary64)
  /-- Assess a current value and a benchmark with the last query. -/
  | assess (current benchmark : Binary64)
  deriving DecidableEq, Repr

/-- What a step of a session answers. -/
inductive SessionReply where
  /-- A setting was changed or a request loaded. -/
  | done
  /-- Rows of fields are no labeling rules; nothing was changed. -/
  | labelsRefused (error : LabelingError)
  /-- A request was refused; nothing was changed. -/
  | requestRefused (error : BuildError)
  /-- The report of a build, and whether its query agrees with the one before, if both exist. -/
  | built (report : BuildReport) (agreesWithLast : Option Bool)
  /-- There is no query yet. -/
  | noQuery
  /-- The label of a value. -/
  | labeled (label : Except LabelingError String)
  /-- The assessments of a pair. -/
  | assessed (assessments : Except LabelingError (List Assessment))

namespace Session

/-- The session before its first step. -/
def initial : Session := ⟨Settings.initial, none⟩

/-- **Take one step** over a catalog. -/
def step (catalog : Catalog) (s : Session) : SessionStep → Session × SessionReply
  | .change change => ({ s with settings := s.settings.change change }, .done)
  | .labels rows =>
      match LabelingRule.ofRows rows with
      | .ok rules => ({ s with settings := s.settings.change (.rules rules) }, .done)
      | .error error => (s, .labelsRefused error)
  | .load request =>
      match Settings.load request s.settings with
      | .ok () settings => ({ s with settings }, .done)
      | .error error settings => ({ s with settings }, .requestRefused (.labeling error))
  | .build =>
      let report := s.settings.buildReport catalog
      match report.outcome with
      | .ok query =>
          ({ s with lastQuery := some query }, .built report (s.lastQuery.map query.agrees))
      | .error _ => (s, .built report none)
  | .label delta =>
      match s.lastQuery with
      | some query => (s, .labeled (query.label delta))
      | none => (s, .noQuery)
  | .assess current benchmark =>
      match s.lastQuery with
      | some query => (s, .assessed (query.assess current benchmark))
      | none => (s, .noQuery)

/-- Take steps one after the other, collecting the replies. -/
def run (catalog : Catalog) (s : Session) : List SessionStep → Session × List SessionReply
  | [] => (s, [])
  | step :: steps =>
      let (next, reply) := s.step catalog step
      let (last, replies) := next.run catalog steps
      (last, reply :: replies)

end Session

end CubeAssessment
