import CubeAssessment.Document.Moment
import CubeAssessment.Numeric.Binary64

/-! # Document values

The values of a structured document, as a configuration file or a request in data form holds them.
A table remembers how it came to be, since that decides whether later lines of its document may add
to it; what a finished document means does not depend on it. -/

namespace CubeAssessment.Document

/-- How a table came to be. -/
inductive TableOrigin where
  /-- By a header of its own, or as the whole document. -/
  | header
  /-- As a parent named in the header of another table. -/
  | implied
  /-- As a parent named in a dotted key. -/
  | dotted
  /-- As one value; nothing can be added to it. -/
  | inline
  deriving DecidableEq, Repr

/-- **A value of a document.** -/
inductive Value where
  /-- No value. -/
  | null
  /-- A truth value. -/
  | boolean (b : Bool)
  /-- An integer. -/
  | integer (n : Int)
  /-- A floating-point number. -/
  | real (x : Binary64)
  /-- A text. -/
  | text (s : String)
  /-- A date or time. -/
  | moment (m : Moment)
  /-- A list. A growing list is one of tables that headers add to. -/
  | list (growing : Bool) (items : List Value)
  /-- A table, each key once. -/
  | table (origin : TableOrigin) (entries : List (String × Value))
  deriving Repr

instance : Inhabited Value := ⟨.null⟩

/-- The entries of a table. -/
abbrev Entries := List (String × Value)

/-- Give a key a value, in place of the one it may have. -/
def setEntry (key : String) (value : Value) : Entries → Entries
  | [] => [(key, value)]
  | entry :: rest =>
      if entry.1 = key then (key, value) :: rest else entry :: setEntry key value rest

end CubeAssessment.Document
