import CubeAssessment.Numeric.Literal

/-! # Log levels

A level filter names the most detailed events that pass. -/

namespace CubeAssessment

/-- **The most detailed events that pass.** -/
inductive LevelFilter where
  /-- Nothing passes. -/
  | off
  /-- Errors. -/
  | error
  /-- Warnings too. -/
  | warn
  /-- Information too. -/
  | info
  /-- Debugging events too. -/
  | debug
  /-- Everything passes. -/
  | trace
  deriving DecidableEq, Repr

namespace LevelFilter

/-- The name of a level. -/
def name : LevelFilter → String
  | off => "off"
  | error => "error"
  | warn => "warn"
  | info => "info"
  | debug => "debug"
  | trace => "trace"

/-- All levels, from the least to the most detailed. -/
def all : List LevelFilter := [off, error, warn, info, debug, trace]

/-- The level of a number: 0 for nothing up to 5 for everything. -/
def ofNumber? (n : Nat) : Option LevelFilter := all[n]?

/-- The level of a name in any case. -/
def ofName? (text : String) : Option LevelFilter :=
  all.find? fun level => level.name.toList == text.toList.map Char.toLower

/-- **The level a text names**, by its number or its name. -/
def parse (text : String) : Option LevelFilter :=
  ((Literal.readNatural text).bind ofNumber?).or (ofName? text)

end LevelFilter

end CubeAssessment
