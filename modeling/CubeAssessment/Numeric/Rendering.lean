import CubeAssessment.Numeric.Literal

/-! # Writing numbers

A finite double is written with the fewest digits that read back to it, and among decimals of that
many digits with the nearest. Two layouts share these digits: the *general* layout, used for
interval bounds, always shows a fraction digit and turns to an exponent for very large and very
small numbers; the *plain* layout, used for benchmark parameters, never writes an exponent and
shows fraction digits only where there are any. -/

namespace CubeAssessment

/-! ## Shortest decimals -/

namespace Magnitude

/-- The number of integral digits of a finite magnitude other than zero: the `p` with
`10 ^ (p - 1) ≤ value < 10 ^ p`. Scaled by `10 ^ 400` every such magnitude has an integer part. -/
def integralDigits (m : Magnitude) : Int :=
  (Nat.toDigits 10 (m.units * power 10 400 / power 2 1074)).length - 400

/-- A finite magnitude divided by `10 ^ exponent`, as a fraction. -/
def scaled (m : Magnitude) (exponent : Int) : Nat × Nat :=
  if 0 ≤ exponent then (m.units, power 2 1074 * power 10 exponent.toNat)
  else (m.units * power 10 (-exponent).toNat, power 2 1074)

/-- The decimal with the given exponent that reads back to the magnitude, if there is one: the
nearest, and of two equally near the larger. Only the two neighbours of the magnitude qualify. -/
def decimalAt (m : Magnitude) (exponent : Int) : Option Decimal :=
  let (n, d) := m.scaled exponent
  let low : Decimal := ⟨n / d, exponent⟩
  let high : Decimal := ⟨n / d + 1, exponent⟩
  if low.toMagnitude = m then
    if high.toMagnitude = m ∧ d ≤ 2 * (n % d) then some high else some low
  else if high.toMagnitude = m then some high
  else none

/-- The exact decimal expansion of a finite magnitude. -/
def exactDecimal (m : Magnitude) : Decimal := ⟨m.units * power 5 1074, -1074⟩

/-- **The shortest decimal that reads back to a finite magnitude** other than zero. Seventeen
digits always suffice; the exact expansion closes the search. -/
def shortestDecimal (m : Magnitude) : Decimal :=
  let point := m.integralDigits
  ((List.range 17).findSome? fun i => m.decimalAt (point - (i + 1 : Nat))).getD m.exactDecimal

end Magnitude

/-! ## Layouts -/

/-- The digits of a number and the place of its decimal point, counted from the first digit. -/
structure DigitRow where
  /-- The digits, the first and the last not zero. -/
  digits : List Char
  /-- How many digits stand before the point; negative when zeros follow the point. -/
  point : Int
  deriving DecidableEq, Repr

namespace DigitRow

/-- The digits of a decimal, without trailing zeros. -/
def ofDecimal (x : Decimal) : DigitRow :=
  let digits := Nat.toDigits 10 x.coefficient
  ⟨(digits.reverse.dropWhile (· == '0')).reverse, digits.length + x.exponent⟩

/-- The digits before the point, padded with zeros up to it; a single zero when there are none. -/
def wholePart (row : DigitRow) : List Char :=
  if row.point ≤ 0 then ['0']
  else row.digits.take row.point.toNat ++
    List.replicate (row.point.toNat - row.digits.length) '0'

/-- The digits after the point, with the zeros that stand between it and them. -/
def fractionPart (row : DigitRow) : List Char :=
  if row.point ≤ 0 then List.replicate (-row.point).toNat '0' ++ row.digits
  else row.digits.drop row.point.toNat

/-- The number written out, without a point when no fraction digits follow. -/
def plain (row : DigitRow) : List Char :=
  if row.fractionPart.isEmpty then row.wholePart
  else row.wholePart ++ '.' :: row.fractionPart

/-- The number written out, with at least one fraction digit. -/
def pointed (row : DigitRow) : List Char :=
  row.wholePart ++ '.' :: (if row.fractionPart.isEmpty then ['0'] else row.fractionPart)

/-- An exponent as text. -/
def exponentText (exponent : Int) : List Char :=
  if exponent < 0 then '-' :: Nat.toDigits 10 exponent.natAbs
  else Nat.toDigits 10 exponent.natAbs

/-- One digit, the other digits behind a point if there are any, and the power of ten. -/
def scientific (row : DigitRow) : List Char :=
  (match row.digits with
    | [] => []
    | [digit] => [digit]
    | digit :: rest => digit :: '.' :: rest) ++
    'e' :: exponentText (row.point - 1)

/-- Whether the number is written out rather than with an exponent: from `10 ^ (-4)` up to, but not
including, `10 ^ 16`, and zero. -/
def isModerate (row : DigitRow) : Bool :=
  row.digits.isEmpty || (decide (-3 ≤ row.point) && decide (row.point ≤ 16))

/-- The number written out with at least one fraction digit, or with an exponent when that would
take many zeros. -/
def general (row : DigitRow) : List Char :=
  if row.isModerate then row.pointed else row.scientific

end DigitRow

namespace Binary64

/-- The digits of a finite magnitude; those of zero are none. -/
def digitRow (m : Magnitude) : DigitRow :=
  if m.code = 0 then ⟨[], 0⟩ else DigitRow.ofDecimal m.shortestDecimal

/-- Write a double, given how a finite magnitude is laid out. -/
def render (layout : DigitRow → List Char) : Binary64 → String
  | nan => "NaN"
  | signed negative m =>
      let body := if m.isFinite then layout (digitRow m) else "inf".toList
      String.ofList (if negative then '-' :: body else body)

/-- **The general text of a double**: `1.0`, `-0.0`, `0.0001`, `1e-5`, `1e16`, `inf`, `NaN`. -/
def generalText (x : Binary64) : String :=
  x.render DigitRow.general

/-- **The plain text of a double**: `1`, `-0`, `0.00001`, `10000000000000000`, `inf`, `NaN`. -/
def plainText (x : Binary64) : String :=
  x.render DigitRow.plain

end Binary64

end CubeAssessment
