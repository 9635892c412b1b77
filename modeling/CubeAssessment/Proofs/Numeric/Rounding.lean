import CubeAssessment.Numeric.Rendering
import CubeAssessment.Proofs.Numeric.ExtendedReal
import Mathlib.Tactic.Ring

/-! # Rounding and shortest decimals

Rounding depends on the value of a fraction only (`ofUnits_mul_right`), so a decimal rounds alike
with any number of zeros written at its end (`Decimal.toMagnitude_padded`), and a value that is a
magnitude's rounds to it (`ofUnits_units`). Hence the decimal by which a finite magnitude is written
reads back to it (`toMagnitude_shortestDecimal`): what the search for few digits finds it has tried,
and the exact expansion that closes the search has the magnitude's own value. -/

namespace CubeAssessment

/-- A power is the power of natural numbers. -/
theorem power_eq (base exponent : Nat) : power base exponent = base ^ exponent := rfl

theorem power_pos {base : Nat} (h : 0 < base) (exponent : Nat) : 0 < power base exponent :=
  Nat.pow_pos h

theorem power_add (base k l : Nat) : power base (k + l) = power base k * power base l :=
  Nat.pow_add base k l

/-! ## Rounding fractions -/

/-- **Rounding to a natural number depends on the value of the fraction only.** -/
theorem roundHalfEven_mul_right (n d : Nat) {k : Nat} (hk : 0 < k) :
    roundHalfEven (n * k) (d * k) = roundHalfEven n d := by
  have hbelow : 2 * (n % d * k) < d * k ↔ 2 * (n % d) < d := by
    rw [← Nat.mul_assoc, Nat.mul_lt_mul_right hk]
  have habove : d * k < 2 * (n % d * k) ↔ d < 2 * (n % d) := by
    rw [← Nat.mul_assoc, Nat.mul_lt_mul_right hk]
  simp only [roundHalfEven, Nat.mul_mod_mul_right, Nat.mul_div_mul_right n d hk, hbelow, habove]

/-- A multiple of the denominator is rounded without error. -/
theorem roundHalfEven_mul_self (n : Nat) {d : Nat} (hd : 0 < d) : roundHalfEven (n * d) d = n := by
  rw [roundHalfEven, Nat.mul_mod_left, Nat.mul_zero, if_pos hd, Nat.mul_div_cancel n hd]

namespace Magnitude

/-- **Rounding to a magnitude depends on the value of the fraction only.** -/
theorem ofUnits_mul_right (n d : Nat) {k : Nat} (hk : 0 < k) :
    ofUnits (n * k) (d * k) = ofUnits n d := by
  have hround : ∀ shift, roundHalfEven (n * k) (d * k * power 2 shift) =
      roundHalfEven n (d * power 2 shift) := by
    intro shift
    rw [Nat.mul_right_comm, roundHalfEven_mul_right _ _ hk]
  simp only [ofUnits, Nat.mul_div_mul_right n d hk, hround]

/-- Fractions of one value round to one magnitude. -/
theorem ofUnits_eq_of_mul_eq {n d n' d' : Nat} (hd : 0 < d) (hd' : 0 < d')
    (h : n * d' = n' * d) : ofUnits n d = ofUnits n' d' := by
  calc ofUnits n d = ofUnits (n * d') (d * d') := (ofUnits_mul_right n d hd').symm
    _ = ofUnits (n' * d) (d' * d) := by rw [h, Nat.mul_comm d d']
    _ = ofUnits n' d' := ofUnits_mul_right n' d' hd

/-- A significand with the leading bit, shifted, rounds to the magnitude of its fields. -/
theorem code_ofUnits_shifted {significand : Nat} (shift : Nat) (hlow : 2 ^ 52 ≤ significand)
    (hhigh : significand < 2 ^ 53) : (ofUnits (significand * 2 ^ shift) 1).code =
      min (shift * 2 ^ 52 + significand) infinityCode := by
  have hlog : (significand * 2 ^ shift).log2 = 52 + shift := by
    refine (Nat.log2_eq_iff (by positivity)).mpr ⟨?_, ?_⟩
    · rw [pow_add]
      exact Nat.mul_le_mul_right _ hlow
    · rw [show 52 + shift + 1 = 53 + shift by omega, pow_add]
      exact Nat.mul_lt_mul_of_pos_right hhigh (Nat.two_pow_pos shift)
  rw [ofUnits]
  dsimp only
  rw [Nat.div_one, hlog, Nat.add_sub_cancel_left, Nat.one_mul, power_eq, power_eq,
    roundHalfEven_mul_self _ (Nat.two_pow_pos shift)]

/-- **The value of a finite magnitude rounds to it.** -/
theorem ofUnits_units {m : Magnitude} (h : m.isFinite = true) : ofUnits m.units 1 = m := by
  have hcode : m.code < infinityCode := of_decide_eq_true h
  refine ext_code ?_
  rw [units_eq]
  by_cases hm : m.code < 2 ^ 52
  · have hlog : m.code.log2 - 52 = 0 := by
      rcases Nat.eq_zero_or_pos m.code with hzero | hpos
      · rw [hzero, Nat.log2_zero]
      · have := (Nat.log2_lt hpos.ne').mpr hm
        omega
    rw [if_pos hm, ofUnits]
    dsimp only
    rw [Nat.div_one, hlog, Nat.zero_mul, Nat.zero_add, Nat.one_mul, power_eq, pow_zero]
    have hround := roundHalfEven_mul_self m.code Nat.one_pos
    rw [Nat.mul_one] at hround
    rw [hround, Nat.min_eq_left hcode.le]
  · have hfraction : m.code % 2 ^ 52 < 2 ^ 52 := Nat.mod_lt _ (Nat.two_pow_pos 52)
    have hfields : 2 ^ 52 * (m.code / 2 ^ 52) + m.code % 2 ^ 52 = m.code :=
      Nat.div_add_mod m.code (2 ^ 52)
    rw [if_neg hm, code_ofUnits_shifted _ (Nat.le_add_right _ _) (by omega)]
    -- the leading bit of the significand carries the code into the exponent field
    have hcarry : (m.code / 2 ^ 52 - 1) * 2 ^ 52 + (2 ^ 52 + m.code % 2 ^ 52) = m.code := by omega
    rw [hcarry, Nat.min_eq_left hcode.le]

/-- A magnitude other than zero has a unit. -/
theorem units_pos {m : Magnitude} (h : 0 < m.code) : 0 < m.units :=
  Nat.zero_lt_of_lt (units_lt_units (m := zero) h)

/-- The units of a finite magnitude are bounded. -/
theorem units_lt_of_isFinite {m : Magnitude} (h : m.isFinite = true) : m.units < 2 ^ 2098 := by
  have hcode : m.code < infinityCode := of_decide_eq_true h
  have hinfinity : infinity.units = 2 ^ 2098 := by decide +kernel
  have hunits : m.units < infinity.units := units_lt_units hcode
  rwa [hinfinity] at hunits

end Magnitude

/-! ## Decimals -/

namespace Decimal

/-- **The decimal with zeros written at its end**, of the same value. -/
def padded (x : Decimal) (zeros : Nat) : Decimal :=
  ⟨x.coefficient * power 10 zeros, x.exponent - zeros⟩

@[simp] theorem padded_zero (x : Decimal) : x.padded 0 = x := by
  cases x
  simp [padded, power_eq]

theorem padded_padded (x : Decimal) (k l : Nat) : (x.padded k).padded l = x.padded (k + l) := by
  simp only [padded, power_eq, Decimal.mk.injEq]
  refine ⟨by rw [pow_add, Nat.mul_assoc], ?_⟩
  push_cast
  omega

/-- Zeros at the end make a number longer by as many digits. -/
theorem length_toDigits_mul_pow {n : Nat} (hn : 0 < n) (k : Nat) :
    (Nat.toDigits 10 (n * 10 ^ k)).length = (Nat.toDigits 10 n).length + k := by
  induction k with
  | zero => rw [pow_zero, Nat.mul_one, Nat.add_zero]
  | succ k ih =>
      have hpos : 0 < n * 10 ^ k := Nat.mul_pos hn (Nat.pow_pos (by decide))
      have hdigits := Nat.toDigits_append_toDigits (b := 10) (d := 0) (by decide) hpos (by decide)
      rw [Nat.toDigits_zero, Nat.add_zero] at hdigits
      rw [pow_succ, ← Nat.mul_assoc, Nat.mul_comm _ 10, ← hdigits, List.length_append, ih]
      rfl

/-- Zeros written at the end do not move the decimal point. -/
theorem integralDigits_padded {x : Decimal} (hx : x.coefficient ≠ 0) (k : Nat) :
    (x.padded k).integralDigits = x.integralDigits := by
  simp only [integralDigits, padded, power_eq,
    length_toDigits_mul_pow (Nat.pos_of_ne_zero hx) k]
  push_cast
  omega

/-- A decimal whose last digit does not stand behind the point is a whole number. -/
theorem unitsFraction_of_nonneg {x : Decimal} (h : 0 ≤ x.exponent) :
    x.unitsFraction = (x.coefficient * power 10 x.exponent.toNat * power 2 1074, 1) :=
  if_pos h

/-- A decimal whose last digit stands behind the point is a decimal fraction. -/
theorem unitsFraction_of_neg {x : Decimal} (h : x.exponent < 0) :
    x.unitsFraction = (x.coefficient * power 2 1074, power 10 (-x.exponent).toNat) :=
  if_neg (not_le.mpr h)

/-- Denominators of decimals are positive. -/
theorem unitsFraction_pos (x : Decimal) : 0 < x.unitsFraction.2 := by
  rw [unitsFraction]
  split
  · exact Nat.one_pos
  · exact power_pos (by decide) _

/-- Zeros written at the end do not change the value. -/
theorem unitsFraction_padded (x : Decimal) (k : Nat) :
    (x.padded k).unitsFraction.1 * x.unitsFraction.2 =
      x.unitsFraction.1 * (x.padded k).unitsFraction.2 := by
  have hcoefficient : (x.padded k).coefficient = x.coefficient * power 10 k := rfl
  have hexponent : (x.padded k).exponent = x.exponent - k := rfl
  -- whether the last digit stands behind the point, before and after the zeros are written
  rcases lt_or_ge x.exponent 0 with hneg | hnonneg
  · have hpadded : (-(x.padded k).exponent).toNat = k + (-x.exponent).toNat := by omega
    rw [unitsFraction_of_neg hneg, unitsFraction_of_neg (x := x.padded k) (by omega), hpadded,
      hcoefficient, power_add]
    ring
  · rcases lt_or_ge (x.padded k).exponent 0 with hneg | hnonneg'
    · have hzeros : k = x.exponent.toNat + (-(x.padded k).exponent).toNat := by omega
      have hsplit : power 10 k =
          power 10 x.exponent.toNat * power 10 (-(x.padded k).exponent).toNat := by
        rw [← power_add, ← hzeros]
      rw [unitsFraction_of_nonneg hnonneg, unitsFraction_of_neg hneg, hcoefficient, hsplit]
      ring
    · have hpadded : x.exponent.toNat = k + (x.padded k).exponent.toNat := by omega
      rw [unitsFraction_of_nonneg hnonneg, unitsFraction_of_nonneg hnonneg', hcoefficient, hpadded,
        power_add]
      ring

/-- **Zeros written at the end do not change the magnitude nearest to a decimal.** -/
theorem toMagnitude_padded (x : Decimal) (k : Nat) : (x.padded k).toMagnitude = x.toMagnitude := by
  by_cases hx : x.coefficient = 0
  · rw [toMagnitude, toMagnitude, if_pos hx, if_pos (by rw [padded, hx, Nat.zero_mul])]
  · have hcoefficient : (x.padded k).coefficient ≠ 0 :=
      Nat.mul_ne_zero hx (power_pos (by decide) k).ne'
    rw [toMagnitude, toMagnitude, if_neg hx, if_neg hcoefficient, integralDigits_padded hx,
      Magnitude.ofUnits_eq_of_mul_eq (unitsFraction_pos _) (unitsFraction_pos x)
        (unitsFraction_padded x k)]

/-- A decimal other than zero with its point within bounds is rounded. -/
theorem toMagnitude_of_integralDigits {x : Decimal} (hx : x.coefficient ≠ 0)
    (hlower : -330 ≤ x.integralDigits) (hupper : x.integralDigits ≤ 310) :
    x.toMagnitude = Magnitude.ofUnits x.unitsFraction.1 x.unitsFraction.2 := by
  rw [toMagnitude, if_neg hx, if_neg (not_lt.mpr hupper), if_neg (not_lt.mpr hlower)]

/-- A decimal that rounds to a finite magnitude other than zero has its point within bounds. -/
theorem integralDigits_of_toMagnitude {x : Decimal} (hpos : 0 < x.toMagnitude.code)
    (hfinite : x.toMagnitude.isFinite = true) :
    -330 ≤ x.integralDigits ∧ x.integralDigits ≤ 310 := by
  rw [toMagnitude] at hpos hfinite
  split at hpos
  · exact absurd hpos (by decide)
  · next hx =>
    rw [if_neg hx] at hfinite
    split at hpos
    · next hlarge =>
      rw [if_pos hlarge] at hfinite
      exact absurd hfinite (by decide)
    · split at hpos
      · exact absurd hpos (by decide)
      · exact ⟨by omega, by omega⟩

end Decimal

/-! ## Shortest decimals -/

namespace Magnitude

/-- The decimal tried at an exponent reads back. -/
theorem toMagnitude_of_decimalAt {m : Magnitude} {exponent : Int} {x : Decimal}
    (h : m.decimalAt exponent = some x) : x.toMagnitude = m := by
  rw [decimalAt] at h
  dsimp only at h
  split at h
  · next hlow =>
    split at h
    · next hhigh =>
      cases h
      exact hhigh.1
    · cases h
      exact hlow
  · split at h
    · next hhigh =>
      cases h
      exact hhigh
    · cases h

/-- **The exact expansion of a finite magnitude reads back.** Its digits are those of the units
times a power of five, and these powers are what bounds the place of its point. -/
theorem toMagnitude_exactDecimal {m : Magnitude} (hpos : 0 < m.code) (h : m.isFinite = true) :
    m.exactDecimal.toMagnitude = m := by
  have hunits : 0 < m.units := units_pos hpos
  have hfive : 0 < power 5 1074 := power_pos (by decide) _
  have hten : ∀ k, power 5 k * power 2 k = power 10 k := fun k => (Nat.mul_pow 5 2 k).symm
  have hupper : (Nat.toDigits 10 (m.units * power 5 1074)).length ≤ 1384 := by
    refine (Nat.length_toDigits_le_iff (by decide) (by decide)).mpr ?_
    calc m.units * power 5 1074 < 2 ^ 2098 * power 5 1074 :=
          Nat.mul_lt_mul_of_pos_right (units_lt_of_isFinite h) hfive
      _ < 10 ^ 1384 := by decide +kernel
  have hlower : ¬ (Nat.toDigits 10 (m.units * power 5 1074)).length ≤ 743 := by
    rw [Nat.length_toDigits_le_iff (by decide) (by decide), not_lt]
    calc 10 ^ 743 ≤ power 5 1074 := by decide +kernel
      _ ≤ m.units * power 5 1074 := Nat.le_mul_of_pos_left _ hunits
  have hcoefficient : m.exactDecimal.coefficient = m.units * power 5 1074 := rfl
  have hexponent : m.exactDecimal.exponent = -1074 := rfl
  have hpoint : m.exactDecimal.integralDigits =
      (Nat.toDigits 10 (m.units * power 5 1074)).length - 1074 := rfl
  have hdenominator : (-m.exactDecimal.exponent).toNat = 1074 := by omega
  have hne : m.exactDecimal.coefficient ≠ 0 := Nat.mul_ne_zero hunits.ne' hfive.ne'
  rw [Decimal.toMagnitude_of_integralDigits hne (by omega) (by omega),
    Decimal.unitsFraction_of_neg (by omega), hdenominator, hcoefficient]
  dsimp only
  calc ofUnits (m.units * power 5 1074 * power 2 1074) (power 10 1074)
      = ofUnits (m.units * power 10 1074) (1 * power 10 1074) := by
        rw [Nat.mul_assoc, hten, Nat.one_mul]
    _ = ofUnits m.units 1 := ofUnits_mul_right _ _ (power_pos (by decide) _)
    _ = m := ofUnits_units h

/-- **The shortest decimal of a finite magnitude reads back.** -/
theorem toMagnitude_shortestDecimal {m : Magnitude} (hpos : 0 < m.code) (h : m.isFinite = true) :
    m.shortestDecimal.toMagnitude = m := by
  rw [shortestDecimal]
  cases hsearch : (List.range 17).findSome? fun i => m.decimalAt (m.integralDigits - (i + 1 : Nat))
    with
  | none => exact toMagnitude_exactDecimal hpos h
  | some x =>
      obtain ⟨i, -, hi⟩ := List.exists_of_findSome?_eq_some hsearch
      exact toMagnitude_of_decimalAt hi

end Magnitude

end CubeAssessment
