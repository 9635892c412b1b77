import CubeAssessment.Logging.Pattern.CharacterClass
import CubeAssessment.Text.Alphanumeric

/-! # Patterns

The value of a field can be asked to match a regular expression. Patterns are run by finite
automata over whole characters, so there are groups, alternatives, repetitions and character
classes with set operations, but no back references and no look-around; and the forms that need a
closing brace cannot occur, since that brace ends the field the pattern belongs to. This file
decides which texts are patterns. -/

namespace CubeAssessment.Pattern

open Text (Reader)
open Text.Reader

/-! ## Outlines -/

/-- **What matters of a pattern** once its parts have been read. -/
structure Outline where
  /-- How deep it is nested. -/
  depth : Nat
  /-- The names of its groups. -/
  names : List String
  deriving Repr

/-- **What has been read of the content of a group**, or of a whole pattern. -/
structure Progress where
  /-- The mode at this place. -/
  mode : Mode
  /-- How deep each alternative before this one is nested. -/
  alternatives : List Nat
  /-- How deep each part of this alternative is nested, the last part first. A part that cannot be
  repeated comes with `false`. -/
  parts : List (Nat × Bool)
  /-- The names of the groups so far. -/
  names : List String
  deriving Repr

namespace Progress

/-- Before anything has been read. -/
def start (mode : Mode) : Progress := ⟨mode, [], [], []⟩

/-- How deep the alternative that is being read is nested. -/
def alternativeDepth (progress : Progress) : Nat :=
  joinedDepth (progress.parts.map (·.1))

/-- What matters of the content. -/
def outline (progress : Progress) : Outline :=
  ⟨joinedDepth (progress.alternativeDepth :: progress.alternatives), progress.names⟩

/-- One part more, which can be repeated. -/
def add (progress : Progress) (depth : Nat) : Progress :=
  { progress with parts := (depth, true) :: progress.parts }

/-- Repeat the last part, if it can be repeated. -/
def repeated (progress : Progress) : Option Progress :=
  match progress.parts with
  | (depth, true) :: parts => some { progress with parts := (depth + 1, true) :: parts }
  | _ => none

end Progress

/-! ## Groups -/

/-- A character with which the name of a group starts. -/
def startsName (c : Char) : Bool := c == '_' || Text.isAlphabetic c

/-- A character inside the name of a group. -/
def isNameChar (c : Char) : Bool :=
  c == '_' || c == '.' || c == '[' || c == ']' || Text.isAlphanumeric c

/-- The name of a group, behind its opening angle bracket. -/
def groupName : Reader String := do
  let first ← satisfy startsName
  let rest ← takeWhile isNameChar
  char '>'
  return String.ofList (first :: rest)

/-- What stands between the opening bracket of a group and its content: the names it declares, and
the mode of its content. -/
def groupHead (mode : Mode) : Reader (List String × Mode) :=
  (do word ['?', 'P', '<']; return ([← groupName], mode)) <|>
    (do word ['?', '<']; return ([← groupName], mode)) <|>
    (do char '?'; let flags ← flags; char ':'; return ([], mode.apply flags)) <|>
    pure ([], mode)

/-- A group, given the reader of its content. Flags that are set inside it end with it. -/
def group (content : Mode → Reader Outline) (progress : Progress) : Reader Progress := do
  char '('
  progress.mode.skip
  let (names, mode) ← groupHead progress.mode
  let inner ← content mode
  char ')'
  return { progress.add (inner.depth + 1) with
    names := names ++ inner.names ++ progress.names }

/-- Flags for the rest of the enclosing group. They count as a part that cannot be repeated. -/
def flagSetting (progress : Progress) : Reader Progress := do
  char '('
  progress.mode.skip
  char '?'
  let flags ← flags
  check (!flags.isEmpty)
  char ')'
  return { progress with
    mode := progress.mode.apply flags
    parts := (0, false) :: progress.parts }

/-! ## Parts -/

/-- A sign that repeats the part before it. A question mark right after it makes the repetition a
reluctant one. -/
def repetition (progress : Progress) : Reader Progress := do
  let _ ← satisfy fun c => c == '?' || c == '*' || c == '+'
  let progress ← ofOption progress.repeated
  let _ ← Reader.optional (char '?')
  return progress

/-- The sign between two alternatives. -/
def alternation (progress : Progress) : Reader Progress := do
  char '|'
  return { progress with
    alternatives := progress.alternativeDepth :: progress.alternatives
    parts := [] }

/-- A point, which stands for any code point. -/
def point (progress : Progress) : Reader Progress := do
  char '.'
  check progress.mode.unicode
  return progress.add 0

/-- The sign of the start or the end of a line. -/
def lineEnd (progress : Progress) : Reader Progress := do
  let _ ← satisfy fun c => c == '^' || c == '$'
  return progress.add 0

/-- A character class. -/
def bracketed (progress : Progress) : Reader Progress := do
  return progress.add (← classWithin progress.mode nestingLimit)

/-- An element that stands by itself. -/
def standing (progress : Progress) : Reader Progress := do
  ahead (satisfy fun c => !"()[|?*+.^$\x7b".toList.contains c)
  let element ← element progress.mode
  check (element.standsAlone progress.mode)
  return progress.add 0

/-- One sign or part more, given the reader of the content of groups. -/
def Progress.step (content : Mode → Reader Outline) (progress : Progress) : Reader Progress := do
  progress.mode.skip
  flagSetting progress <|> group content progress <|> repetition progress <|>
    alternation progress <|> point progress <|> lineEnd progress <|> bracketed progress <|>
    standing progress

/-! ## Patterns -/

/-- The content of a group, or a whole pattern, with at most the given depth of groups. -/
def contentWithin : Nat → Mode → Reader Outline
  | 0, _ => failure
  | fuel + 1, mode => do
      let progress ← iterate (Progress.step (contentWithin fuel)) (Progress.start mode)
      progress.mode.skip
      return progress.outline

/-- **Whether a text is a pattern.** It is not nested too deep, and its groups have different
names. -/
def accepts (text : String) : Bool :=
  match contentWithin (nestingLimit + 1) Mode.initial text.toList with
  | some (outline, []) => decide (outline.depth ≤ nestingLimit) && decide outline.names.Nodup
  | _ => false

end CubeAssessment.Pattern
