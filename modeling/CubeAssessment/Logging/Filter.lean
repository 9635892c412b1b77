import CubeAssessment.Configuration.Model
import CubeAssessment.Logging.Directive

/-! # Log filters

A log filter lists directives, separated by commas. They are kept in two lists, those that can be
decided once for each place that logs and those that depend on the spans entered; a directive that
asks for the mere presence of a field is in both. -/

namespace CubeAssessment

/-- Why logging cannot be set up. -/
inductive LoggingError where
  /-- The filter is not valid. -/
  | invalidFilter
  /-- A subscriber is installed already, and there can be only one. -/
  | alreadyInstalled
  deriving DecidableEq, Repr

/-- **A log filter**: its directives, the most specific first. -/
structure LogFilter where
  /-- The directives decided once. -/
  static : List Directive
  /-- The directives that depend on spans. -/
  dynamic : List Directive
  deriving DecidableEq, Repr

namespace LogFilter

/-- The filter of a list of directives; of several that differ only in the level the last counts. -/
def ofDirectives (directives : List Directive) : LogFilter :=
  { static := Directive.collect (directives.filter Directive.isStatic)
    dynamic := Directive.collect (directives.filter Directive.isDynamic) }

/-- The filter of everything down to information. -/
def default : LogFilter := ofDirectives [Directive.ofLevel .info]

/-- The text of a filter. -/
def text (f : LogFilter) : String :=
  ",".intercalate ((f.static ++ f.dynamic).map Directive.text)

/-- **Read a filter.** Empty directives are skipped; a filter without directives passes nothing. -/
def parse (text : String) : Except LoggingError LogFilter :=
  let parts := (text.splitOn ",").filter (· != "")
  match parts.mapM Directive.parse with
  | none => .error .invalidFilter
  | some directives => .ok (ofDirectives directives)

/-- The filter of logging preferences, the default one when they name none. -/
def ofConfig (c : LoggingConfig) : Except LoggingError LogFilter :=
  match c.filter with
  | some text => parse text
  | none => .ok default

end LogFilter

/-- **Set up logging**, given whether a subscriber is installed already. The filter is checked
first. -/
def initLogging (installed : Bool) (c : LoggingConfig) : Except LoggingError LogFilter := do
  let filter ← LogFilter.ofConfig c
  if installed then .error .alreadyInstalled else .ok filter

end CubeAssessment
