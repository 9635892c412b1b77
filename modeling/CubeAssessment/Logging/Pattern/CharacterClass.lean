import CubeAssessment.Logging.Pattern.Element

/-! # Character classes

A character class is written in brackets. It has characters, ranges, named ASCII classes and
further classes as members, and set operations between its members. Its readers answer how deep it
is nested. -/

namespace CubeAssessment.Pattern

open Text (Reader)
open Text.Reader

/-! ## Members -/

/-- Succeed before a hyphen that makes a range: a closing bracket or a second hyphen after it gives
it another meaning. White space after it does not count, nor does one number sign within that. -/
def rangeAhead (mode : Mode) : Reader Unit :=
  ahead do
    char '-'
    if mode.verbose then
      let _ ← takeWhile Text.isBlank
      let _ ← Reader.optional (char '#')
      let _ ← takeWhile Text.isBlank
    satisfy fun c => c != ']' && c != '-'

/-- An element that can be a member of a class. -/
def classElement (mode : Mode) : Reader Element := do
  let member ← element mode
  check (member.isMember mode)
  return member

/-- An element, or a range between two characters. -/
def classRange (mode : Mode) : Reader Unit := do
  ahead (satisfy fun c => c != '[' && c != ']')
  let low ← classElement mode
  mode.skip
  if (← Reader.optional (rangeAhead mode)).isSome then
    char '-'
    mode.skip
    check (low.isRange (← classElement mode))

/-- The names of ASCII classes. -/
def asciiClassNames : List String :=
  ["alnum", "alpha", "ascii", "blank", "cntrl", "digit", "graph", "lower", "print", "punct",
    "space", "upper", "word", "xdigit"]

/-- A named ASCII class: whether it stands for the other characters. -/
def namedClass : Reader Bool := do
  word ['[', ':']
  let caret ← Reader.optional (char '^')
  let name ← takeWhile (· != ':')
  word [':', ']']
  check (asciiClassNames.contains (String.ofList name))
  return caret.isSome

/-- A member of a class, given the reader of a class: how deep it is nested. -/
def classMember (mode : Mode) (bracket : Reader Nat) : Reader Nat := do
  match ← Reader.optional namedClass with
  | some negated => do
      check (mode.distinguishes && (mode.unicode || !negated))
      return 0
  | none => bracket <|> do classRange mode; return 0

/-! ## Operations -/

/-- A set operation: intersection, difference or symmetric difference. -/
def classOperator : Reader Unit :=
  word ['&', '&'] <|> word ['-', '-'] <|> word ['~', '~']

/-- **What has been read of a class.** Operations are done from left to right. -/
structure ClassProgress where
  /-- How deep the operations before the last operator are nested. -/
  operand : Option Nat
  /-- How deep each member after it is nested. -/
  members : List Nat
  deriving Repr

namespace ClassProgress

/-- How deep the members and operations are nested. -/
def depth (progress : ClassProgress) : Nat :=
  match progress.operand with
  | none => joinedDepth progress.members
  | some operand => 1 + max operand (joinedDepth progress.members)

/-- One operator or member more. -/
def step (mode : Mode) (bracket : Reader Nat) (progress : ClassProgress) :
    Reader ClassProgress := do
  mode.skip
  (do classOperator; return ⟨some progress.depth, []⟩) <|>
    (do
      let member ← classMember mode bracket
      return { progress with members := member :: progress.members })

end ClassProgress

/-- The members with which a class may begin: hyphens, or else one closing bracket, stand for
themselves there. -/
def leadingMembers (mode : Mode) : Reader (List Nat) := do
  let hyphens ← many do char '-'; mode.skip
  let bracket ←
    if hyphens.isEmpty then Reader.optional do char ']'; mode.skip else pure none
  let members := (hyphens ++ bracket.toList).map fun _ => 0
  check (members.isEmpty || mode.distinguishes)
  return members

/-- **A class** with at most the given depth of brackets: how deep it is nested. A class of all
other characters is one of code points. -/
def classWithin (mode : Mode) : Nat → Reader Nat
  | 0 => failure
  | fuel + 1 => do
      char '['
      mode.skip
      let caret ← Reader.optional do char '^'; mode.skip
      check (mode.unicode || caret.isNone)
      let leading ← leadingMembers mode
      let progress ← iterate (ClassProgress.step mode (classWithin mode fuel)) ⟨none, leading⟩
      mode.skip
      char ']'
      return progress.depth + 1

end CubeAssessment.Pattern
