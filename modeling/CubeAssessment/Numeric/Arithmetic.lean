import CubeAssessment.Numeric.Binary64

/-! # Rounding and arithmetic

Every operation computes its exact result as a fraction of units of `2 ^ (-1074)` and rounds it
once, to the nearest double and on a tie to the one with the even code. -/

namespace CubeAssessment

/-- The natural number nearest to `n / d`, the even one on a tie. -/
def roundHalfEven (n d : Nat) : Nat :=
  if 2 * (n % d) < d then n / d
  else if d < 2 * (n % d) then n / d + 1
  else n / d + n / d % 2

namespace Magnitude

/-- **Round the exact value `n / d`, in units, to a magnitude.** With `shift` the number of bits
that the integer part has beyond 53, neighbouring doubles are `2 ^ shift` units apart; a carry out
of the rounded significand moves the code into the next exponent by itself, and beyond the largest
finite double the result is infinite. -/
def ofUnits (n d : Nat) : Magnitude :=
  let shift := (n / d).log2 - 52
  ⟨min (shift * power 2 52 + roundHalfEven n (d * power 2 shift)) infinityCode,
    Nat.min_le_right _ _⟩

end Magnitude

namespace Binary64

/-- The exact value of a finite double in units of `2 ^ (-1074)`, with its sign. -/
def signedUnits (negative : Bool) (m : Magnitude) : Int :=
  if negative then -m.units else m.units

/-- Subtraction. Equal infinities have no difference, and a zero difference is positive unless it
is `-0` minus `+0`. -/
def sub : Binary64 → Binary64 → Binary64
  | signed s a, signed t b =>
      match a.isFinite, b.isFinite with
      | true, true =>
          let difference := signedUnits s a - signedUnits t b
          if difference = 0 then signed (s && !t) Magnitude.zero
          else signed (decide (difference < 0)) (Magnitude.ofUnits difference.natAbs 1)
      | true, false => signed (!t) b
      | false, true => signed s a
      | false, false => if s = t then nan else signed s a
  | _, _ => nan

/-- Multiplication. Zero times infinity is undefined. -/
def mul : Binary64 → Binary64 → Binary64
  | signed s a, signed t b =>
      if a.isFinite && b.isFinite then
        signed (s ^^ t) (Magnitude.ofUnits (a.units * b.units) (power 2 1074))
      else if a.code = 0 || b.code = 0 then nan
      else signed (s ^^ t) Magnitude.infinity
  | _, _ => nan

/-- Division. A number other than zero divided by zero is infinite; `0 / 0` and `∞ / ∞` are
undefined. -/
def div : Binary64 → Binary64 → Binary64
  | signed s a, signed t b =>
      match a.isFinite, b.isFinite with
      | true, true =>
          if b.code = 0 then
            if a.code = 0 then nan else signed (s ^^ t) Magnitude.infinity
          else signed (s ^^ t) (Magnitude.ofUnits (a.units * power 2 1074) b.units)
      | true, false => signed (s ^^ t) Magnitude.zero
      | false, true => signed (s ^^ t) Magnitude.infinity
      | false, false => nan
  | _, _ => nan

end Binary64

end CubeAssessment
