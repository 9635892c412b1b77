import CubeAssessment.Text.CaseTables
import CubeAssessment.Text.Ranges

/-! # Lower-casing

Cube names, aggregation functions, benchmark kinds and delta function names match without regard
to case: both sides are brought to their full Unicode lower case. Each character is mapped by
itself, with one exception that needs its surroundings: a capital sigma that ends a word becomes
the final small sigma `ς`, any other capital sigma becomes `σ`. -/

namespace CubeAssessment.Text

/-! ## Single characters -/

/-- Whether the character is a capital, small or title-case letter or behaves like one. -/
def isCased (c : Char) : Bool := inRanges casedRanges c.toNat

/-- Whether casing looks through the character when it asks for the neighbouring letters. -/
def isCaseIgnorable (c : Char) : Bool := inRanges caseIgnorableRanges c.toNat

/-- The code point of the lower case of a character that `İ` is not; a character without another
lower case is its own. -/
def lowerCode (code : Nat) : Nat :=
  match lowerRuns.find? (·.covers code) with
  | some run => run.lower code
  | none => code

/-- The lower case of one character taken alone. Only `İ` (U+0130) has a lower case of two
characters, `i` and the combining dot above. -/
def lowerChar (c : Char) : List Char :=
  if c.toNat = 0x130 then ['i', Char.ofNat 0x307]
  else [Char.ofNat (lowerCode c.toNat)]

/-! ## Capital sigma -/

/-- The capital sigma `Σ`. -/
def capitalSigma : Char := Char.ofNat 0x3A3

/-- The small sigma `σ`, written inside a word. -/
def smallSigma : Char := Char.ofNat 0x3C3

/-- The final small sigma `ς`, written at the end of a word. -/
def finalSigma : Char := Char.ofNat 0x3C2

/-- Whether the first character that is not looked through is cased. -/
def casedAhead (cs : List Char) : Bool :=
  match cs.dropWhile isCaseIgnorable with
  | c :: _ => isCased c
  | [] => false

/-- The lower case of a capital sigma between the characters before it (nearest first) and the
characters after it: final when a cased letter precedes it and none follows. -/
def lowerSigma (before after : List Char) : Char :=
  if casedAhead before && !casedAhead after then finalSigma else smallSigma

/-! ## Whole texts -/

/-- Lower-casing of the remaining characters, given those already passed, nearest first. -/
def lowerFrom (before : List Char) : List Char → List Char
  | [] => []
  | c :: after =>
    (if c = capitalSigma then [lowerSigma before after] else lowerChar c) ++
      lowerFrom (c :: before) after

/-- **The full lower case of a text.** -/
def lower (s : String) : String :=
  String.ofList (lowerFrom [] s.toList)

@[simp] theorem toList_lower (s : String) : (lower s).toList = lowerFrom [] s.toList :=
  String.toList_ofList

end CubeAssessment.Text
