/-! # Doubles

`Binary64` is the type of IEEE 754 double-precision numbers, with one NaN. A number other than NaN
is a sign and a magnitude, and a magnitude is the number's 63 low bits read as a natural number:
`0` for zero, `infinityCode` for infinity, everything between for the finite magnitudes, in their
own order. So comparing doubles is comparing integers, and the exact value of a finite double is a
natural number of units of `2 ^ (-1074)`, the smallest positive double. -/

namespace CubeAssessment

/-- A power of a natural number. The operator is fixed to the one on natural numbers, so that it is
the same whether or not a more general one is in scope. -/
def power (base exponent : Nat) : Nat :=
  letI : Pow Nat Nat := instPowNat
  base ^ exponent

/-- The code of the infinite magnitude: an exponent field of ones and an empty fraction field. -/
def infinityCode : Nat := 2047 * power 2 52

/-- **The magnitude of a double** other than NaN. -/
structure Magnitude where
  /-- The exponent and fraction fields as one number. -/
  code : Nat
  /-- No magnitude lies above the infinite one. -/
  code_le : code ≤ infinityCode
  deriving DecidableEq, Repr

namespace Magnitude

/-- The magnitude of zero. -/
def zero : Magnitude := ⟨0, Nat.zero_le _⟩

/-- The magnitude of the infinities. -/
def infinity : Magnitude := ⟨infinityCode, Nat.le_refl _⟩

/-- Whether the magnitude is that of a real number. -/
def isFinite (m : Magnitude) : Bool := decide (m.code < infinityCode)

/-- The value of a finite magnitude in units of `2 ^ (-1074)`. Below `2 ^ 53` the code counts the
units; above, each further step of the exponent field doubles the distance of neighbours. -/
def units (m : Magnitude) : Nat :=
  if m.code < power 2 52 then m.code
  else (power 2 52 + m.code % power 2 52) * power 2 (m.code / power 2 52 - 1)

end Magnitude

/-- **A double-precision number.** -/
inductive Binary64 where
  /-- Not a number, the value of an undefined operation. -/
  | nan
  /-- A number with its sign bit, zeros and infinities included. -/
  | signed (negative : Bool) (magnitude : Magnitude)
  deriving DecidableEq, Repr

namespace Binary64

/-- Positive zero. -/
def zero : Binary64 := signed false Magnitude.zero

/-- Positive infinity. -/
def infinity : Binary64 := signed false Magnitude.infinity

/-- Negative infinity. -/
def negInfinity : Binary64 := signed true Magnitude.infinity

instance : Inhabited Binary64 := ⟨zero⟩

/-- Whether the value is not a number. -/
def isNaN : Binary64 → Bool
  | nan => true
  | signed _ _ => false

/-- Whether the value is a real number. -/
def isFinite : Binary64 → Bool
  | nan => false
  | signed _ m => m.isFinite

/-! ## Numeric comparison

NaN is neither below, equal to nor above anything, itself included; the two zeros are equal. -/

/-- The place of a number in the numeric order; NaN has none. -/
def key : Binary64 → Option Int
  | nan => none
  | signed false m => some m.code
  | signed true m => some (-m.code)

/-- Numeric `<`. -/
def below (x y : Binary64) : Bool :=
  match x.key, y.key with
  | some a, some b => decide (a < b)
  | _, _ => false

/-- Numeric `=`. -/
def equals (x y : Binary64) : Bool :=
  match x.key, y.key with
  | some a, some b => decide (a = b)
  | _, _ => false

/-! ## Total comparison

A linear order of all doubles: `-0` stands just before `+0`, and NaN after everything else. -/

/-- The place of a double in the total order. -/
def rank : Binary64 → Int
  | nan => infinityCode + 1
  | signed false m => m.code
  | signed true m => -m.code - 1

/-- Compare two doubles in the total order. -/
def totalCompare (x y : Binary64) : Ordering := compare x.rank y.rank

/-! ## Signs -/

/-- The value with a negative zero made positive, every other value unchanged. -/
def withoutNegativeZero : Binary64 → Binary64
  | signed true m => if m.code = 0 then signed false m else signed true m
  | x => x

end Binary64

end CubeAssessment
