import CubeAssessment.Proofs.Numeric.Rounding
import Mathlib.Algebra.Order.Field.Power
import Mathlib.Data.Rat.Cast.Order
import Mathlib.Tactic.FieldSimp
import Mathlib.Tactic.NormNum
import Mathlib.Tactic.Positivity

/-! # Overflow and underflow of decimals

Which decimals round to infinity and which to zero, by their exact values: a decimal overflows from
half a step above the largest finite double on (`Decimal.isFinite_toMagnitude_iff`), and it
underflows up to half the smallest positive one (`Decimal.toMagnitude_eq_zero_iff`). Both are ties,
which go to the even neighbour. -/

namespace CubeAssessment

/-- **Rounding to a natural number, by comparison**: the result is at most `k` when the value is
below `k + 1/2`, and on the tie when `k` is even. -/
theorem roundHalfEven_le_iff {n d k : Nat} (hd : 0 < d) : roundHalfEven n d ≤ k ↔
    2 * n < (2 * k + 1) * d ∨ 2 * n = (2 * k + 1) * d ∧ k % 2 = 0 := by
  have hn : d * (n / d) + n % d = n := Nat.div_add_mod n d
  have hrest : n % d < d := Nat.mod_lt n hd
  have hbound : (2 * k + 1) * d = 2 * (d * k) + d := by ring
  unfold roundHalfEven
  generalize n / d = m at hn ⊢
  generalize n % d = r at hn hrest ⊢
  rw [hbound]
  -- the whole parts decide unless they are equal
  rcases lt_trichotomy m k with hlt | rfl | hgt
  · have hstep : d * m + d ≤ d * k := Nat.mul_le_mul_left d hlt
    refine iff_of_true ?_ (Or.inl (by omega))
    split
    · omega
    · split
      · omega
      · omega
  · split
    · exact iff_of_true le_rfl (Or.inl (by omega))
    · split
      · exact iff_of_false (by omega) (by omega)
      · omega
  · have hstep : d * k + d ≤ d * m := Nat.mul_le_mul_left d hgt
    refine iff_of_false ?_ (by omega)
    split
    · omega
    · split
      · omega
      · omega

/-- Rounding stays below an even number up to half a step before it. -/
theorem roundHalfEven_lt_iff {n d k : Nat} (hd : 0 < d) (hpos : 0 < k) (heven : k % 2 = 0) :
    roundHalfEven n d < k ↔ 2 * n + d < 2 * (k * d) := by
  obtain ⟨l, rfl⟩ : ∃ l, k = l + 1 := ⟨k - 1, by omega⟩
  have hbound : (2 * l + 1) * d + d = 2 * ((l + 1) * d) := by ring
  rw [Nat.lt_succ_iff, roundHalfEven_le_iff hd]
  omega

/-- Rounding does not go below a number that the value reaches. -/
theorem le_roundHalfEven {n d k : Nat} (hd : 0 < d) (h : k * d ≤ n) : k ≤ roundHalfEven n d := by
  have hwhole : k ≤ n / d := (Nat.le_div_iff_mul_le hd).mpr h
  unfold roundHalfEven
  split
  · exact hwhole
  · split
    · omega
    · omega

namespace Magnitude

/-- The code of the infinite magnitude, its power written as such. -/
theorem infinityCode_eq : infinityCode = 2047 * 2 ^ 52 := rfl

/-- The code of a rounded fraction, its powers written as such. -/
theorem code_ofUnits (n d : Nat) : (ofUnits n d).code =
    min (((n / d).log2 - 52) * 2 ^ 52 + roundHalfEven n (d * 2 ^ ((n / d).log2 - 52)))
      infinityCode := rfl

/-- A fraction lies between the powers of two around its whole part. -/
theorem fraction_bounds {n d : Nat} (hd : 0 < d) :
    (0 < (n / d).log2 → 2 ^ (n / d).log2 * d ≤ n) ∧ n < 2 ^ ((n / d).log2 + 1) * d := by
  constructor
  · intro hlog
    have hpos : n / d ≠ 0 := by
      intro hzero
      rw [hzero, Nat.log2_zero] at hlog
      exact lt_irrefl 0 hlog
    exact (Nat.le_div_iff_mul_le hd).mp (Nat.log2_self_le hpos)
  · exact (Nat.div_lt_iff_lt_mul hd).mp Nat.lt_log2_self

/-- **The rounded significand has at most 53 bits**, a carry apart, and no fewer once the whole part
has as many. -/
theorem significand_bounds {n d : Nat} (hd : 0 < d) :
    roundHalfEven n (d * 2 ^ ((n / d).log2 - 52)) ≤ 2 ^ 53 ∧
    (52 ≤ (n / d).log2 → 2 ^ 52 ≤ roundHalfEven n (d * 2 ^ ((n / d).log2 - 52))) := by
  obtain ⟨hlow, hhigh⟩ := fraction_bounds (n := n) hd
  generalize (n / d).log2 = e at hlow hhigh ⊢
  have hdenominator : 0 < d * 2 ^ (e - 52) := Nat.mul_pos hd (Nat.two_pow_pos _)
  constructor
  · rw [roundHalfEven_le_iff hdenominator]
    have hn : n < 2 ^ 53 * (d * 2 ^ (e - 52)) := by
      calc n < 2 ^ (e + 1) * d := hhigh
        _ ≤ 2 ^ (53 + (e - 52)) * d :=
            Nat.mul_le_mul_right _ (Nat.pow_le_pow_right (by decide) (by omega))
        _ = 2 ^ 53 * (d * 2 ^ (e - 52)) := by rw [pow_add]; ring
    have hbound : (2 * 2 ^ 53 + 1) * (d * 2 ^ (e - 52)) =
        2 * (2 ^ 53 * (d * 2 ^ (e - 52))) + d * 2 ^ (e - 52) := by ring
    exact Or.inl (by omega)
  · intro hbits
    apply le_roundHalfEven hdenominator
    calc 2 ^ 52 * (d * 2 ^ (e - 52)) = 2 ^ (52 + (e - 52)) * d := by rw [pow_add]; ring
      _ = 2 ^ e * d := by rw [Nat.add_sub_cancel' hbits]
      _ ≤ n := hlow (by omega)

/-- The powers of two around an exponent field, by the power they share. -/
theorem powers_around (t e : Nat) :
    (e < t + 53 → 2 ^ (e + 1) ≤ 2 ^ 53 * 2 ^ t) ∧ (e = t + 53 → 2 ^ (e - 52) = 2 * 2 ^ t) ∧
      (t + 53 < e → 2 ^ 54 * 2 ^ t ≤ 2 ^ e) := by
  refine ⟨fun hlt => ?_, fun heq => ?_, fun hgt => ?_⟩
  · rw [← Nat.pow_add]
    exact Nat.pow_le_pow_right (by decide) (by omega)
  · have hshift : e - 52 = t + 1 := by omega
    rw [hshift, pow_succ']
  · rw [← Nat.pow_add]
    exact Nat.pow_le_pow_right (by decide) (by omega)

/-- **A fraction of units overflows from half a step above the largest finite double on.** -/
theorem isFinite_ofUnits_iff {n d : Nat} (hd : 0 < d) :
    (ofUnits n d).isFinite = true ↔ n + 2 ^ 2044 * d < 2 ^ 54 * (2 ^ 2044 * d) := by
  obtain ⟨hlow, hhigh⟩ := fraction_bounds (n := n) hd
  obtain ⟨hcarry, hbits⟩ := significand_bounds (n := n) hd
  rw [isFinite, decide_eq_true_iff, code_ofUnits, infinityCode_eq, min_lt_iff, lt_self_iff_false,
    or_false]
  generalize (n / d).log2 = e at hlow hhigh hcarry hbits ⊢
  obtain ⟨hbelow, htop, habove⟩ := powers_around 2044 e
  generalize 2 ^ 2044 = p at hbelow htop habove ⊢
  -- only in the highest exponent field does the significand decide
  rcases lt_trichotomy e (2044 + 53) with hlt | heq | hgt
  · have hn : n < 2 ^ 53 * (p * d) := by
      calc n < 2 ^ (e + 1) * d := hhigh
        _ ≤ 2 ^ 53 * p * d := Nat.mul_le_mul_right _ (hbelow hlt)
        _ = 2 ^ 53 * (p * d) := Nat.mul_assoc _ _ _
    exact iff_of_true (by omega) (by omega)
  · have hdouble : d * 2 ^ (e - 52) = 2 * (p * d) := by
      rw [htop heq]
      ring
    have hpos : 0 < d * 2 ^ (e - 52) := Nat.mul_pos hd (Nat.two_pow_pos _)
    have hround := roundHalfEven_lt_iff (n := n) (k := 2 ^ 53) hpos (by decide) (by decide)
    rw [hdouble] at hround ⊢
    omega
  · have hn : 2 ^ 54 * (p * d) ≤ n := by
      calc 2 ^ 54 * (p * d) = 2 ^ 54 * p * d := (Nat.mul_assoc _ _ _).symm
        _ ≤ 2 ^ e * d := Nat.mul_le_mul_right _ (habove hgt)
        _ ≤ n := hlow (by omega)
    have hleading := hbits (by omega)
    exact iff_of_false (by omega) (by omega)

/-- **A fraction of units underflows up to half a unit.** -/
theorem ofUnits_eq_zero_iff {n d : Nat} (hd : 0 < d) : ofUnits n d = zero ↔ 2 * n ≤ d := by
  have hcode : ofUnits n d = zero ↔ (ofUnits n d).code = 0 :=
    ⟨fun h => by rw [h, zero], eq_zero_of_code⟩
  obtain ⟨hlow, -⟩ := fraction_bounds (n := n) hd
  have hbits := (significand_bounds (n := n) hd).2
  rw [hcode, code_ofUnits, infinityCode_eq]
  by_cases hlarge : 52 ≤ (n / d).log2
  · -- a large value has a significand, and is at least its denominator
    have hleading := hbits hlarge
    have hn : d ≤ n := (Nat.le_mul_of_pos_left d (Nat.two_pow_pos _)).trans (hlow (by omega))
    exact iff_of_false (by omega) (by omega)
  · have hshift : (n / d).log2 - 52 = 0 := by omega
    have hround := roundHalfEven_le_iff (n := n) (k := 0) hd
    rw [hshift, pow_zero, Nat.mul_one]
    omega

end Magnitude

namespace Decimal

/-- **The value of a decimal.** -/
def value (x : Decimal) : ℚ := x.coefficient * 10 ^ x.exponent

/-- The least value that rounds to infinity: half a step above the largest finite double. -/
def overflowBound : ℚ := 2 ^ 1024 - 2 ^ 970

/-- The largest value that rounds to zero: half the smallest positive double. -/
def underflowBound : ℚ := (2 ^ 1075)⁻¹

/-- The fraction of units of a decimal has its value. -/
theorem value_mul_eq (x : Decimal) :
    x.value * 2 ^ 1074 * x.unitsFraction.2 = x.unitsFraction.1 := by
  have hunits : ((power 2 1074 : Nat) : ℚ) = 2 ^ 1074 := by
    rw [power_eq, Nat.cast_pow, Nat.cast_ofNat]
  have hten : ∀ k, ((power 10 k : Nat) : ℚ) = 10 ^ k := fun k => by
    rw [power_eq, Nat.cast_pow, Nat.cast_ofNat]
  generalize (2 : ℚ) ^ 1074 = units at hunits ⊢
  rcases lt_or_ge x.exponent 0 with hneg | hnonneg
  · have hexponent : x.exponent = -((-x.exponent).toNat : ℤ) := by omega
    rw [unitsFraction_of_neg hneg, value]
    dsimp only
    rw [Nat.cast_mul, hunits, hten]
    generalize (-x.exponent).toNat = k at hexponent ⊢
    rw [hexponent, zpow_neg, zpow_natCast]
    have hpos : (10 : ℚ) ^ k ≠ 0 := by positivity
    field_simp
  · have hexponent : x.exponent = (x.exponent.toNat : ℤ) := by omega
    rw [unitsFraction_of_nonneg hnonneg, value]
    dsimp only
    rw [Nat.cast_mul, Nat.cast_mul, hunits, hten]
    generalize x.exponent.toNat = k at hexponent ⊢
    rw [hexponent, zpow_natCast, Nat.cast_one, mul_one]

/-- **The place of the point tells the size of a decimal**, up to a factor of ten. -/
theorem value_bounds {x : Decimal} (hx : x.coefficient ≠ 0) :
    10 ^ (x.integralDigits - 1) ≤ x.value ∧ x.value < 10 ^ x.integralDigits := by
  have hlength : 0 < (Nat.toDigits 10 x.coefficient).length :=
    List.length_pos_iff.mpr Nat.toDigits_ne_nil
  have hshift : (0 : ℚ) < 10 ^ x.exponent := by positivity
  constructor
  · have hlow : 10 ^ ((Nat.toDigits 10 x.coefficient).length - 1) ≤ x.coefficient := by
      rcases Nat.eq_zero_or_pos ((Nat.toDigits 10 x.coefficient).length - 1) with hone | hmore
      · rw [hone]
        exact Nat.pos_of_ne_zero hx
      · rw [← not_lt, ← Nat.length_toDigits_le_iff (by decide) hmore]
        omega
    have hpoint : x.integralDigits - 1 =
        ((Nat.toDigits 10 x.coefficient).length - 1 : ℕ) + x.exponent := by
      rw [integralDigits]
      omega
    rw [hpoint, zpow_add₀ (by norm_num), zpow_natCast, value]
    exact mul_le_mul_of_nonneg_right (by exact_mod_cast hlow) hshift.le
  · have hhigh : x.coefficient < 10 ^ (Nat.toDigits 10 x.coefficient).length :=
      (Nat.length_toDigits_le_iff (by decide) hlength).mp le_rfl
    rw [integralDigits, zpow_add₀ (by norm_num), zpow_natCast, value]
    exact mul_lt_mul_of_pos_right (by exact_mod_cast hhigh) hshift

/-- A fraction overflows by its value. -/
theorem overflows_iff {v : ℚ} {n d : Nat} (hd : 0 < d) (hv : v * 2 ^ 1074 * d = n) :
    n + 2 ^ 2044 * d < 2 ^ 54 * (2 ^ 2044 * d) ↔ v < overflowBound := by
  have hpower : ((2 ^ 2044 : Nat) : ℚ) = 2 ^ 970 * 2 ^ 1074 := by
    rw [Nat.cast_pow, Nat.cast_ofNat, ← pow_add]
  have hbound : overflowBound = 2 ^ 54 * 2 ^ 970 - 2 ^ 970 := by
    rw [overflowBound, ← pow_add]
  have hpos : (0 : ℚ) < 2 ^ 1074 * d := by positivity
  rw [hbound, ← Nat.cast_lt (α := ℚ), Nat.cast_add, Nat.cast_mul, Nat.cast_mul, Nat.cast_mul,
    hpower, ← hv]
  generalize (2 : ℚ) ^ 970 = p
  generalize (2 : ℚ) ^ 1074 = units at hpos ⊢
  calc v * units * d + p * units * d < ((2 ^ 54 : Nat) : ℚ) * (p * units * d)
      ↔ (v + p) * (units * d) < 2 ^ 54 * p * (units * d) := by
        rw [Nat.cast_pow, Nat.cast_ofNat]
        ring_nf
    _ ↔ v + p < 2 ^ 54 * p := mul_lt_mul_iff_of_pos_right hpos
    _ ↔ v < 2 ^ 54 * p - p := lt_sub_iff_add_lt.symm

/-- A fraction underflows by its value. -/
theorem underflows_iff {v : ℚ} {n d : Nat} (hd : 0 < d) (hv : v * 2 ^ 1074 * d = n) :
    2 * n ≤ d ↔ v ≤ underflowBound := by
  have hpower : (2 : ℚ) ^ 1075 = 2 * 2 ^ 1074 := pow_succ' 2 1074
  have hpos : (0 : ℚ) < d := by positivity
  have hunits : (0 : ℚ) < 2 * 2 ^ 1074 := by positivity
  rw [underflowBound, hpower, ← Nat.cast_le (α := ℚ), Nat.cast_mul, Nat.cast_ofNat, ← hv,
    ← one_div, le_div_iff₀ hunits]
  generalize (2 : ℚ) ^ 1074 = units
  calc 2 * (v * units * d) ≤ d ↔ v * (2 * units) * d ≤ 1 * d := by ring_nf
    _ ↔ v * (2 * units) ≤ 1 := mul_le_mul_iff_of_pos_right hpos

/-- A decimal with very many digits before its point overflows. -/
theorem overflowBound_le_value {x : Decimal} (hx : x.coefficient ≠ 0)
    (hlarge : 310 < x.integralDigits) : overflowBound ≤ x.value := by
  have hpower : (2 : ℚ) ^ 1024 ≤ 10 ^ 310 := by
    exact_mod_cast (by decide +kernel : (2 : ℕ) ^ 1024 ≤ 10 ^ 310)
  calc overflowBound ≤ 2 ^ 1024 := sub_le_self _ (by positivity)
    _ ≤ 10 ^ 310 := hpower
    _ = 10 ^ (310 : ℤ) := (zpow_natCast 10 310).symm
    _ ≤ 10 ^ (x.integralDigits - 1) := zpow_le_zpow_right₀ (by norm_num) (by omega)
    _ ≤ x.value := (value_bounds hx).1

/-- A decimal with very many zeros behind its point underflows. -/
theorem value_le_underflowBound {x : Decimal} (hx : x.coefficient ≠ 0)
    (hsmall : x.integralDigits < -330) : x.value ≤ underflowBound := by
  have hpower : (2 : ℚ) ^ 1075 ≤ 10 ^ 331 := by
    exact_mod_cast (by decide +kernel : (2 : ℕ) ^ 1075 ≤ 10 ^ 331)
  calc x.value ≤ 10 ^ x.integralDigits := (value_bounds hx).2.le
    _ ≤ 10 ^ (-331 : ℤ) := zpow_le_zpow_right₀ (by norm_num) (by omega)
    _ = (10 ^ 331)⁻¹ := by rw [zpow_neg]; rfl
    _ ≤ underflowBound := inv_anti₀ (by positivity) hpower

/-- The value that underflows last is below the one that overflows first. -/
theorem underflowBound_lt_overflowBound : underflowBound < overflowBound := by
  have hsplit : overflowBound = (2 ^ 54 - 1) * 2 ^ 970 := by
    rw [overflowBound, sub_mul, one_mul, ← pow_add]
  have hone : (1 : ℚ) ≤ 2 ^ 970 := one_le_pow₀ (by norm_num)
  calc underflowBound ≤ 1 := inv_le_one_of_one_le₀ (one_le_pow₀ (by norm_num))
    _ < (2 ^ 54 - 1) * 1 := by norm_num
    _ ≤ (2 ^ 54 - 1) * 2 ^ 970 := mul_le_mul_of_nonneg_left hone (by norm_num)
    _ = overflowBound := hsplit.symm

/-- **A decimal is rounded as its fraction of units.** Where its digits tell at once that it
overflows or underflows, rounding the fraction gives the same. -/
theorem toMagnitude_eq_ofUnits (x : Decimal) :
    x.toMagnitude = Magnitude.ofUnits x.unitsFraction.1 x.unitsFraction.2 := by
  have hd := unitsFraction_pos x
  have hunderflow : x.value ≤ underflowBound →
      Magnitude.ofUnits x.unitsFraction.1 x.unitsFraction.2 = Magnitude.zero := by
    rw [← underflows_iff hd (value_mul_eq x), ← Magnitude.ofUnits_eq_zero_iff hd]
    exact id
  rw [toMagnitude]
  by_cases hzero : x.coefficient = 0
  · rw [if_pos hzero, hunderflow]
    rw [value, hzero, Nat.cast_zero, zero_mul, underflowBound]
    positivity
  · rw [if_neg hzero]
    by_cases hlarge : 310 < x.integralDigits
    · rw [if_pos hlarge]
      have hoverflow := not_lt.mpr (overflowBound_le_value hzero hlarge)
      rw [← overflows_iff hd (value_mul_eq x), ← Magnitude.isFinite_ofUnits_iff hd] at hoverflow
      exact (Magnitude.eq_infinity_of_not_isFinite hoverflow).symm
    · rw [if_neg hlarge]
      by_cases hsmall : x.integralDigits < -330
      · rw [if_pos hsmall, hunderflow (value_le_underflowBound hzero hsmall)]
      · rw [if_neg hsmall]

/-- **A decimal rounds to a real number exactly when its value is below the bound.** -/
theorem isFinite_toMagnitude_iff (x : Decimal) :
    x.toMagnitude.isFinite = true ↔ x.value < overflowBound := by
  rw [toMagnitude_eq_ofUnits, Magnitude.isFinite_ofUnits_iff (unitsFraction_pos x),
    overflows_iff (unitsFraction_pos x) (value_mul_eq x)]

/-- **A decimal rounds to zero exactly when its value does not exceed the bound.** -/
theorem toMagnitude_eq_zero_iff (x : Decimal) :
    x.toMagnitude = Magnitude.zero ↔ x.value ≤ underflowBound := by
  rw [toMagnitude_eq_ofUnits, Magnitude.ofUnits_eq_zero_iff (unitsFraction_pos x),
    underflows_iff (unitsFraction_pos x) (value_mul_eq x)]

end Decimal

end CubeAssessment
