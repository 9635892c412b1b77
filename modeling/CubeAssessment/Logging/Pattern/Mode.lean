import CubeAssessment.Text.Blank
import CubeAssessment.Text.Reader

/-! # Modes of patterns

Flags inside a pattern change how the rest of it is read. Three of them bear on which patterns there
are: ignoring case, working with code points, and allowing white space and comments. -/

namespace CubeAssessment.Pattern

open Text (Reader)
open Text.Reader

/-- **The flags in force** at a place of a pattern. -/
structure Mode where
  /-- Letters match in either case. -/
  ignoreCase : Bool
  /-- A pattern is about code points, not about ASCII characters only. -/
  unicode : Bool
  /-- White space and comments can stand between the parts of a pattern. -/
  verbose : Bool
  deriving DecidableEq, Repr

namespace Mode

/-- The mode in which a pattern begins. -/
def initial : Mode := ⟨false, true, false⟩

/-- Switch one flag on or off. The other flags only bear on what a pattern matches. -/
def switch (mode : Mode) (flag : Char) (on : Bool) : Mode :=
  match flag with
  | 'i' => { mode with ignoreCase := on }
  | 'u' => { mode with unicode := on }
  | 'x' => { mode with verbose := on }
  | _ => mode

/-- The mode after a list of flags: those behind a hyphen are switched off. -/
def apply (mode : Mode) (flags : List Char) : Mode :=
  let on := flags.takeWhile (· != '-')
  let off := flags.dropWhile (· != '-')
  let mode := on.foldl (fun mode flag => mode.switch flag true) mode
  off.foldl (fun mode flag => mode.switch flag false) mode

/-- Whether characters can be told apart. Without tables of letter cases, the case of code points
cannot be ignored. -/
def distinguishes (mode : Mode) : Bool := !(mode.unicode && mode.ignoreCase)

/-- A stretch of white space, or a comment from a number sign to the end of its line. -/
def gap : Reader Unit :=
  (do let _ ← run Text.isBlank) <|>
    (do char '#'; let _ ← takeWhile (· != '\n'))

/-- Take the white space and the comments before a part of a pattern. -/
def skip (mode : Mode) : Reader Unit := do
  if mode.verbose then
    let _ ← many gap

end Mode

/-- Flags: each at most once, with at most one hyphen before those that are switched off. -/
def flags : Reader (List Char) := do
  let flags ← takeWhile fun c => "imsUuRx-".toList.contains c
  check (decide flags.Nodup && flags.getLast? != some '-')
  return flags

/-! ## Nesting -/

/-- How deep parts of the given depths are nested when they are joined: joining two or more parts
makes a new level. -/
def joinedDepth : List Nat → Nat
  | [] => 0
  | [depth] => depth
  | depths => 1 + depths.foldl max 0

/-- How deep a pattern can be nested. -/
def nestingLimit : Nat := 250

end CubeAssessment.Pattern
