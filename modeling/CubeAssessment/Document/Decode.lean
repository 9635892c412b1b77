import CubeAssessment.Collections.NameMap
import CubeAssessment.Document.Value

/-! # Decoding documents

Reading typed settings out of document values. A decoder answers `none` for a value that does not
have its form; why it has not is not told. A record, a table with known keys, can also be written
as the list of its fields in their order; keys that a record does not know are ignored. -/

namespace CubeAssessment.Document

/-- The key under which a date or time that stands for a table holds its text. -/
def momentKey : String := "$__toml_private_datetime"

/-- The entries of a value that stands for a table. -/
def entries? : Value → Option Entries
  | .table _ entries => some entries
  | .moment m => some [(momentKey, .text m.text)]
  | _ => none

/-- A text. -/
def decodeText : Value → Option String
  | .text s => some s
  | _ => none

/-- An index: a natural number below `2 ^ 64`. -/
def decodeIndex : Value → Option Nat
  | .integer n => if 0 ≤ n ∧ n < (power 2 64 : Nat) then some n.toNat else none
  | _ => none

/-- A list of values of one form. -/
def decodeList {α : Type} (decode : Value → Option α) : Value → Option (List α)
  | .list _ items => items.mapM decode
  | _ => none

/-- A list of texts. -/
def decodeTexts : Value → Option (List String) := decodeList decodeText

/-- A table of values of one form under any keys. -/
def decodeMap {α : Type} (decode : Value → Option α) (value : Value) : Option (NameMap α) := do
  let entries ← entries? value
  let pairs ← entries.mapM fun entry => (decode entry.2).map fun a => (entry.1, a)
  return NameMap.ofList pairs

/-! ## Records -/

/-- Whether a record written as a list may have more elements than fields. -/
inductive Surplus where
  /-- Further elements are ignored. -/
  | ignored
  /-- A list with further elements is no record. -/
  | refused
  deriving DecidableEq, Repr

/-- **The fields of a record**: for each known field, given in order, the value it has, if any. -/
def recordFields (surplus : Surplus) (names : List String) (value : Value) :
    Option (String → Option Value) :=
  match value with
  | .list _ items =>
      if surplus = .refused ∧ names.length < items.length then none
      else some fun name => (names.zip items).lookup name
  | _ => (entries? value).map fun entries name => entries.lookup name

/-- A field that must be there. -/
def requiredField {α : Type} (fields : String → Option Value) (name : String)
    (decode : Value → Option α) : Option α :=
  (fields name).bind decode

/-- A field that has a default when it is not there. -/
def optionalField {α : Type} (fields : String → Option Value) (name : String) (default : α)
    (decode : Value → Option α) : Option α :=
  match fields name with
  | none => some default
  | some value => decode value

end CubeAssessment.Document
