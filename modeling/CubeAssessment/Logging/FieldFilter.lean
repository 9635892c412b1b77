import CubeAssessment.Logging.Pattern
import CubeAssessment.Numeric.Rendering

/-! # Field filters

A directive can ask that a span has a field of some name, and that the field has some value. The
text of a value says its type: a truth value, a number, or else a pattern for the text of the
field. -/

namespace CubeAssessment

/-- Compare two texts code point by code point. -/
def compareTexts (s t : String) : Ordering := compareOfLessAndEq s t

/-- Compare optional things, absence first. -/
def compareOption {α : Type} (compare : α → α → Ordering) : Option α → Option α → Ordering
  | none, none => .eq
  | none, some _ => .lt
  | some _, none => .gt
  | some a, some b => compare a b

/-- **A value asked for.** -/
inductive FieldValue where
  /-- A truth value. -/
  | boolean (b : Bool)
  /-- A floating-point number, possibly NaN. -/
  | real (x : Binary64)
  /-- A natural number. -/
  | natural (n : Nat)
  /-- A negative integer, or zero with a minus sign. -/
  | integer (n : Int)
  /-- A text that matches a pattern. -/
  | pattern (text : String)
  deriving DecidableEq, Repr

namespace FieldValue

/-- The natural number a text spells, below `2 ^ 64`. -/
def readWord (text : String) : Option Nat :=
  (Literal.readNatural text).filter fun n => decide (n < power 2 64)

/-- The integer a text with a minus sign spells, from `-2 ^ 63`. -/
def readNegative (text : String) : Option Int :=
  match text.toList with
  | '-' :: digits =>
      if digits.isEmpty || !digits.all Char.isDigit then none
      else
        let n := Nat.ofDigitChars 10 digits 0
        if n ≤ power 2 63 then some (-n) else none
  | _ => none

/-- The truth value of a name. -/
def readBoolean (text : String) : Option Bool :=
  if text = "true" then some true
  else if text = "false" then some false
  else none

/-- The pattern of a text. -/
def readPattern (text : String) : Option FieldValue :=
  if Pattern.accepts text then some (.pattern text) else none

/-- **Read a value**: as the first of a truth value, an integer, a number and a pattern that it
is. -/
def parse (text : String) : Option FieldValue :=
  ((readBoolean text).map .boolean)
    |>.or ((readWord text).map .natural)
    |>.or ((readNegative text).map .integer)
    |>.or ((Literal.read text).map .real)
    |>.or (readPattern text)

/-- The text of a value. -/
def text : FieldValue → String
  | boolean b => toString b
  | real x => x.plainText
  | natural n => toString n
  | integer n => toString n
  | pattern text => text

/-- The place of the type of a value in the order of values. -/
def typeRank : FieldValue → Nat
  | boolean _ => 0
  | real _ => 1
  | natural _ => 2
  | integer _ => 3
  | pattern _ => 4

/-- Compare two floating-point values as numbers, NaN last. -/
def compareReal (x y : Binary64) : Ordering :=
  match x.key, y.key with
  | some a, some b => compare a b
  | some _, none => .lt
  | none, some _ => .gt
  | none, none => .eq

/-- Compare two values: by type, and within a type by value. -/
def compareValue (a b : FieldValue) : Ordering :=
  match a, b with
  | boolean s, boolean t => compare s t
  | real x, real y => compareReal x y
  | natural m, natural n => compare m n
  | integer m, integer n => compare m n
  | pattern s, pattern t => compareTexts s t
  | a, b => compare a.typeRank b.typeRank

end FieldValue

/-- **A field asked for**, with its value if that matters too. -/
structure FieldFilter where
  /-- The name of the field. -/
  name : String
  /-- The value of the field. -/
  value : Option FieldValue
  deriving DecidableEq, Repr

namespace FieldFilter

/-- **Read a field filter**: a name, and a value behind an equals sign. What stands behind a second
equals sign is ignored. -/
def parse (text : String) : Option FieldFilter :=
  match text.splitOn "=" with
  | [] => none
  | [name] => some ⟨name, none⟩
  | name :: value :: _ => (FieldValue.parse value).map fun value => ⟨name, some value⟩

/-- The text of a field filter. -/
def text (f : FieldFilter) : String :=
  match f.value with
  | some value => f.name ++ "=" ++ value.text
  | none => f.name

/-- Compare two field filters: those without a value first, then by name and by value. -/
def compareFilter (a b : FieldFilter) : Ordering :=
  (compare a.value.isSome b.value.isSome).then <|
    (compareTexts a.name b.name).then <|
      compareOption FieldValue.compareValue a.value b.value

end FieldFilter

end CubeAssessment
