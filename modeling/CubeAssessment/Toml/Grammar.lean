import CubeAssessment.Toml.Assembly
import CubeAssessment.Toml.Lexical

/-! # TOML documents

The structure of a TOML 1.0 document: values with lists and braced tables in them, lines that give
a value to a key, and headers. Nesting is limited, and the limit bounds the recursion. -/

namespace CubeAssessment.Toml

open Document
open Text (Reader)
open Text.Reader

/-! ## Values -/

/-- A list of values. It may run over several lines and end with a comma. -/
def listOf (value : Reader Value) : Reader Value := do
  char '['
  let items ← Reader.optional <|
    separated (do looseSpace; let item ← value; looseSpace; return item) (char ',')
  let _ ← if items.isSome then Reader.optional (char ',') else pure none
  looseSpace
  char ']'
  return .list false (items.getD [])

/-- A key, an equals sign and a value. -/
def assignment (value : Reader Value) : Reader Assignment := do
  let (parents, key) ← dottedKey
  char '='
  spaces
  let value ← value
  return { parents, key, value }

/-- A table written as one value between braces, on one line. -/
def bracedTable (value : Reader Value) : Reader Value := do
  char '\x7b'
  let assignments ← Reader.optional <|
    separated (do let a ← assignment value; spaces; return a) (char ',')
  spaces
  char '\x7d'
  ofOption (assembleInline (assignments.getD []))

/-- **A value** with at most the given depth of lists and braced tables. -/
def valueWithin : Nat → Reader Value
  | 0 => scalar
  | depth + 1 => scalar <|> listOf (valueWithin depth) <|> bracedTable (valueWithin depth)

/-- A value of a document. -/
def value : Reader Value := valueWithin nestingLimit

/-! ## Lines -/

/-- A line of a document. -/
inductive Line where
  /-- A line without content, or with a comment only. -/
  | blank
  /-- A value given to a key. -/
  | assignment (a : Assignment)
  /-- A header. -/
  | header (repeated : Bool) (parents : List String) (key : String)

/-- A header of one table. -/
def tableHeader : Reader Line := do
  char '['
  let (parents, key) ← dottedKey
  char ']'
  restOfLine
  return .header false parents key

/-- A header of an element of a list of tables. -/
def elementHeader : Reader Line := do
  word ['[', '[']
  let (parents, key) ← dottedKey
  word [']', ']']
  restOfLine
  return .header true parents key

/-- A line without content. -/
def blankLine : Reader Line :=
  (do comment; (lineEnd <|> atEnd); return .blank) <|> (do lineEnd; return .blank)

/-- A line that gives a value to a key. -/
def assignmentLine : Reader Line := do
  let a ← assignment value
  restOfLine
  return .assignment a

/-- One line, and the spaces at the start of the next. -/
def line : Reader Line := do
  let l ← blankLine <|> elementHeader <|> tableHeader <|> assignmentLine
  spaces
  return l

/-- All lines of a document. A byte-order mark at its start is skipped. -/
def lines : Reader (List Line) := do
  let _ ← Reader.optional (char (Char.ofNat 0xFEFF))
  spaces
  let ls ← many line
  atEnd
  return ls

/-! ## Documents -/

/-- Group lines into those before the first header and the sections of the headers. -/
def group : List Line → List Assignment × List Section
  | [] => ([], [])
  | .blank :: ls => group ls
  | .assignment a :: ls =>
      let (assignments, sections) := group ls
      (a :: assignments, sections)
  | .header repeated parents key :: ls =>
      let (assignments, sections) := group ls
      ([], { repeated, parents, key, assignments } :: sections)

/-- **Read a TOML document**; `none` for a text that is none. -/
def parse (text : String) : Option Value := do
  let (ls, _) ← lines text.toList
  let (top, sections) := group ls
  assemble top sections

end CubeAssessment.Toml
