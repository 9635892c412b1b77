import CubeAssessment.Document.Value

/-! # Assembling TOML tables

The lines of a TOML document give values to keys, under the table that the last header opened, and
the values of dotted keys and of headers with several parts lie in tables that come into being on
the way. This file puts the lines together into one table and refuses a document that defines
something twice. -/

namespace CubeAssessment.Toml

open Document

/-- A value given to a key: the parents of the key, its last part and the value. -/
structure Assignment where
  /-- The tables on the way to the key, outermost first. -/
  parents : List String
  /-- The key in the innermost table. -/
  key : String
  /-- The value. -/
  value : Value

/-- The lines under one header. -/
structure Section where
  /-- Whether the header adds an element to a list of tables. -/
  repeated : Bool
  /-- The tables on the way to the table of the header, outermost first. -/
  parents : List String
  /-- The key of the table of the header. -/
  key : String
  /-- The values given below the header. -/
  assignments : List Assignment

/-- How a table is reached. -/
inductive Reach where
  /-- By the parts of a header. -/
  | byHeader
  /-- By the parts of a dotted key. -/
  | byKey
  deriving DecidableEq, Repr

namespace Reach

/-- The origin of a table that comes into being on the way. -/
def fresh : Reach → TableOrigin
  | byHeader => .implied
  | byKey => .dotted

/-- Whether a table of some origin can be entered. One that is a single value never can; a dotted
key cannot enter a table that has a header of its own. -/
def mayEnter : Reach → TableOrigin → Bool
  | _, .inline => false
  | byHeader, _ => true
  | byKey, .header => false
  | byKey, _ => true

end Reach

/-- **Change the table at the end of a path.** Tables missing on the way are made; a list of tables
is entered at its last element; anything else on the way is in the way. -/
def editAt (reach : Reach) (edit : TableOrigin → Entries → Option Entries) :
    List String → TableOrigin → Entries → Option Entries
  | [], origin, entries => edit origin entries
  | key :: path, _, entries =>
      match entries.lookup key with
      | none =>
          (editAt reach edit path reach.fresh []).map fun inner =>
            setEntry key (.table reach.fresh inner) entries
      | some (.table origin inner) =>
          if reach.mayEnter origin then
            (editAt reach edit path origin inner).map fun inner =>
              setEntry key (.table origin inner) entries
          else none
      | some (.list true items) =>
          match items.getLast? with
          | some (.table origin inner) =>
              (editAt reach edit path origin inner).map fun inner =>
                setEntry key (.list true (items.dropLast ++ [.table origin inner])) entries
          | _ => none
      | some _ => none

/-- **Give a key its value.** The key must be new, and a dotted key ends in a table that dotted keys
made. -/
def assign (origin : TableOrigin) (entries : Entries) (a : Assignment) : Option Entries :=
  editAt .byKey
    (fun origin entries =>
      if (origin == .dotted) == a.parents.isEmpty then none
      else if (entries.lookup a.key).isSome then none
      else some (setEntry a.key a.value entries))
    a.parents origin entries

/-- Give several keys their values in a table. -/
def assignAll (origin : TableOrigin) (entries : Entries) (assignments : List Assignment) :
    Option Entries :=
  assignments.foldlM (assign origin) entries

/-- **Add the table of a header.** A table can be opened by a header once, and only if so far it is
missing or merely implied by other headers; a repeated header adds to its list of tables. -/
def addSection (entries : Entries) (s : Section) : Option Entries :=
  editAt .byHeader
    (fun _ entries =>
      match s.repeated, entries.lookup s.key with
      | true, none => do
          let inner ← assignAll .header [] s.assignments
          return setEntry s.key (.list true [.table .header inner]) entries
      | true, some (.list true items) => do
          let inner ← assignAll .header [] s.assignments
          return setEntry s.key (.list true (items ++ [.table .header inner])) entries
      | false, none => do
          let inner ← assignAll .header [] s.assignments
          return setEntry s.key (.table .header inner) entries
      | false, some (.table .implied present) => do
          let inner ← assignAll .header present s.assignments
          return setEntry s.key (.table .header inner) entries
      | _, _ => none)
    s.parents .header entries

/-- **The table of a document**: the lines before the first header, then the sections in order. -/
def assemble (top : List Assignment) (sections : List Section) : Option Value := do
  let entries ← assignAll .header [] top
  let entries ← sections.foldlM addSection entries
  return .table .header entries

/-- The table of the assignments inside one pair of braces. -/
def assembleInline (assignments : List Assignment) : Option Value :=
  (assignAll .inline [] assignments).map (.table .inline)

end CubeAssessment.Toml
