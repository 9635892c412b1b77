import CubeAssessment.Numeric.Arithmetic

/-! # Reading numbers

A number literal is an optional sign followed by a decimal (digits with at most one point among or
around them, then an optional exponent) or by one of the words `inf`, `infinity` and `nan` in any
case. A decimal is read exactly and rounded once. White space is not part of a literal. -/

namespace CubeAssessment

/-- The decimal number `coefficient * 10 ^ exponent`. -/
structure Decimal where
  /-- The digits as one number. -/
  coefficient : Nat
  /-- The power of ten. -/
  exponent : Int
  deriving DecidableEq, Repr

namespace Decimal

/-- The value of a decimal as a fraction of units of `2 ^ (-1074)`. -/
def unitsFraction (x : Decimal) : Nat × Nat :=
  if 0 ≤ x.exponent then (x.coefficient * power 10 x.exponent.toNat * power 2 1074, 1)
  else (x.coefficient * power 2 1074, power 10 (-x.exponent).toNat)

/-- The number of digits before the decimal point when the decimal is written out; negative when
zeros follow the point. -/
def integralDigits (x : Decimal) : Int :=
  (Nat.toDigits 10 x.coefficient).length + x.exponent

/-- **The magnitude nearest to a decimal.** A decimal of more than 310 integral digits is beyond
every finite double and one with more than 330 zeros after its point is below half the smallest, so
the powers of ten computed here are bounded whatever exponent the text spells. -/
def toMagnitude (x : Decimal) : Magnitude :=
  if x.coefficient = 0 then Magnitude.zero
  else if 310 < x.integralDigits then Magnitude.infinity
  else if x.integralDigits < -330 then Magnitude.zero
  else Magnitude.ofUnits x.unitsFraction.1 x.unitsFraction.2

end Decimal

namespace Literal

/-- Split off an optional sign: whether it is a minus, and the characters after it. -/
def splitSign : List Char → Bool × List Char
  | '-' :: rest => (true, rest)
  | '+' :: rest => (false, rest)
  | cs => (false, cs)

/-- The value of exponent digits. Digits that would carry the value further once it has reached
65536 no longer count: such an exponent is out of every range anyhow. -/
def exponentValue (digits : List Char) : Nat :=
  digits.foldl (fun value c => if value < 65536 then 10 * value + (c.toNat - 48) else value) 0

/-- Read a natural number: an optional `+`, then decimal digits. -/
def readNatural (s : String) : Option Nat :=
  let digits := match s.toList with
    | '+' :: rest => rest
    | cs => cs
  if digits.isEmpty || !digits.all Char.isDigit then none
  else some (Nat.ofDigitChars 10 digits 0)

/-- Read what follows the digits of a decimal: nothing, or an exponent with at least one digit. -/
def readExponent : List Char → Option Int
  | [] => some 0
  | c :: rest =>
      if c = 'e' ∨ c = 'E' then
        let (negative, digits) := splitSign rest
        if digits.isEmpty || !digits.all Char.isDigit then none
        else if negative then some (-exponentValue digits)
        else some (exponentValue digits)
      else none

/-- Read a decimal without sign. There is a digit before or after the point. -/
def readDecimal (cs : List Char) : Option Decimal :=
  let whole := cs.takeWhile Char.isDigit
  let afterWhole := cs.dropWhile Char.isDigit
  let (fraction, rest) := match afterWhole with
    | '.' :: tail => (tail.takeWhile Char.isDigit, tail.dropWhile Char.isDigit)
    | _ => ([], afterWhole)
  if whole.isEmpty && fraction.isEmpty then none
  else
    (readExponent rest).map fun exponent =>
      ⟨Nat.ofDigitChars 10 (whole ++ fraction) 0, exponent - fraction.length⟩

/-- Read one of the words for a value that is not a real number. -/
def readWord (negative : Bool) (cs : List Char) : Option Binary64 :=
  let word := cs.map Char.toLower
  if word = "inf".toList ∨ word = "infinity".toList then
    some (.signed negative Magnitude.infinity)
  else if word = "nan".toList then some .nan
  else none

/-- **Read a number literal**; `none` for any other text. -/
def read (s : String) : Option Binary64 :=
  let (negative, body) := splitSign s.toList
  match readDecimal body with
  | some x => some (.signed negative x.toMagnitude)
  | none => readWord negative body

/-- Read a literal of a real number: a literal whose value is NaN or infinite, by its spelling or
by overflow, is refused. -/
def readFinite (s : String) : Option Binary64 :=
  (read s).filter Binary64.isFinite

end Literal

end CubeAssessment
