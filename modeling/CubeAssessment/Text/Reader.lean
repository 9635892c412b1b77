/-! # Readers

A reader takes characters off the front of a text and answers a value, or fails and takes none.
Repetition ends when its reader fails or takes nothing, so every reader is total. -/

namespace CubeAssessment.Text

/-- **A reader of values of a type.** -/
abbrev Reader (α : Type) := StateT (List Char) Option α

namespace Reader

variable {α : Type}

/-- Take a character that passes a test. -/
def satisfy (test : Char → Bool) : Reader Char
  | c :: rest => if test c then some (c, rest) else none
  | [] => none

/-- Take one particular character. -/
def char (c : Char) : Reader Unit := do
  let _ ← satisfy (· == c)

/-- Take one particular word. -/
def word : List Char → Reader Unit
  | [] => pure ()
  | c :: cs => do
      char c
      word cs

/-- Take all characters up to the first that fails a test. -/
def takeWhile (test : Char → Bool) : Reader (List Char) := fun cs =>
  some (cs.takeWhile test, cs.dropWhile test)

/-- Take all characters up to the first that fails a test, at least one. -/
def run (test : Char → Bool) : Reader (List Char) := fun cs =>
  if (cs.takeWhile test).isEmpty then none else some (cs.takeWhile test, cs.dropWhile test)

/-- Succeed, taking nothing, where a reader would. -/
def ahead (r : Reader α) : Reader Unit := fun cs => (r cs).map fun _ => ((), cs)

/-- Succeed at the end of the text. -/
def atEnd : Reader Unit
  | [] => some ((), [])
  | _ :: _ => none

/-- Succeed if the value exists. -/
def ofOption (a : Option α) : Reader α := fun cs => a.map (·, cs)

/-- Succeed if a condition holds. -/
def check (condition : Bool) : Reader Unit := if condition then pure () else failure

/-- Try a reader; when it fails, take nothing. -/
def optional (r : Reader α) : Reader (Option α) := (some <$> r) <|> pure none

/-- **Repeat a reader** until it fails, at most once more when it takes nothing. -/
def many (r : Reader α) (cs : List Char) : Option (List α × List Char) :=
  match r cs with
  | none => some ([], cs)
  | some (a, rest) =>
      if rest.length < cs.length then
        (many r rest).map fun (as, final) => (a :: as, final)
      else some ([a], rest)
termination_by cs.length

/-- **Advance a state** by a reader until it fails, at most once more when it takes nothing. -/
def iterate {σ : Type} (step : σ → Reader σ) (state : σ) (cs : List Char) :
    Option (σ × List Char) :=
  match step state cs with
  | none => some (state, cs)
  | some (next, rest) =>
      if rest.length < cs.length then iterate step next rest else some (next, rest)
termination_by cs.length

/-- Repeat a reader with a separator between repetitions, at least once. -/
def separated (r : Reader α) (separator : Reader Unit) : Reader (List α) := do
  let first ← r
  let rest ← many (do separator; r)
  return first :: rest

end Reader

end CubeAssessment.Text
