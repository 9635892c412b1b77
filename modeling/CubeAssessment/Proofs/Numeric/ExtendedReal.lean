import CubeAssessment.Numeric.Binary64
import Mathlib.Data.EReal.Operations

/-! # Doubles on the extended real line

`Binary64.toEReal` is the extended real number a double stands for. Numeric comparison of doubles
is comparison of these numbers (`below_iff`, `equals_iff`), and on boundaries, which are neither NaN
nor negative zero, so is the total comparison (`rank_lt_rank_iff`, `rank_eq_rank_iff`). -/

namespace CubeAssessment

namespace Magnitude

/-! ## Magnitudes -/

/-- The units of a magnitude, its powers written as such. -/
theorem units_eq (m : Magnitude) : m.units = if m.code < 2 ^ 52 then m.code
    else (2 ^ 52 + m.code % 2 ^ 52) * 2 ^ (m.code / 2 ^ 52 - 1) := rfl

/-- **The units grow with the code.** Within one exponent field the fraction decides; the first
magnitude of a higher exponent field lies above all of a lower one. -/
theorem units_lt_units {m m' : Magnitude} (h : m.code < m'.code) : m.units < m'.units := by
  have hdiv : m.code / 2 ^ 52 ≤ m'.code / 2 ^ 52 := Nat.div_le_div_right h.le
  have hfraction : m.code % 2 ^ 52 < 2 ^ 52 := Nat.mod_lt _ (by norm_num)
  rw [units_eq, units_eq]
  by_cases hm : m.code < 2 ^ 52
  · rw [if_pos hm]
    by_cases hm' : m'.code < 2 ^ 52
    · rw [if_pos hm']
      exact h
    · -- subnormal against normal: the implicit leading bit alone is larger than any fraction
      rw [if_neg hm']
      calc m.code < 2 ^ 52 := hm
        _ ≤ 2 ^ 52 + m'.code % 2 ^ 52 := Nat.le_add_right _ _
        _ ≤ (2 ^ 52 + m'.code % 2 ^ 52) * 2 ^ (m'.code / 2 ^ 52 - 1) :=
          Nat.le_mul_of_pos_right _ (Nat.two_pow_pos _)
  · rw [if_neg hm, if_neg (by omega)]
    rcases hdiv.lt_or_eq with hlt | heq
    · -- one more in the exponent field doubles, and a significand is less than twice the smallest
      have hexponent : m.code / 2 ^ 52 - 1 + 1 ≤ m'.code / 2 ^ 52 - 1 := by omega
      calc (2 ^ 52 + m.code % 2 ^ 52) * 2 ^ (m.code / 2 ^ 52 - 1)
          < (2 ^ 52 * 2) * 2 ^ (m.code / 2 ^ 52 - 1) :=
            Nat.mul_lt_mul_of_pos_right (by omega) (Nat.two_pow_pos _)
        _ = 2 ^ 52 * 2 ^ (m.code / 2 ^ 52 - 1 + 1) := by rw [pow_succ]; ring
        _ ≤ 2 ^ 52 * 2 ^ (m'.code / 2 ^ 52 - 1) :=
            Nat.mul_le_mul_left _ (Nat.pow_le_pow_right (by norm_num) hexponent)
        _ ≤ (2 ^ 52 + m'.code % 2 ^ 52) * 2 ^ (m'.code / 2 ^ 52 - 1) :=
            Nat.mul_le_mul_right _ (Nat.le_add_right _ _)
    · rw [← heq]
      exact Nat.mul_lt_mul_of_pos_right (by omega) (Nat.two_pow_pos _)

/-- **The extended real number of a magnitude.** -/
noncomputable def toEReal (m : Magnitude) : EReal :=
  if m.isFinite then ((m.units / 2 ^ 1074 : ℝ) : EReal) else ⊤

/-- `m.toEReal = ⊤` for the infinite magnitude only. -/
theorem toEReal_eq_top_iff (m : Magnitude) : m.toEReal = ⊤ ↔ m = infinity := by
  rw [toEReal, isFinite]
  by_cases h : m.code < infinityCode
  · rw [if_pos (decide_eq_true h)]
    refine iff_of_false (EReal.coe_ne_top _) ?_
    rintro rfl
    exact Nat.lt_irrefl _ h
  · rw [if_neg (by simpa using h)]
    refine iff_of_true rfl ?_
    cases m with
    | mk code code_le =>
        have hcode : code = infinityCode := Nat.le_antisymm code_le (Nat.le_of_not_lt h)
        subst hcode
        rfl

/-- A finite magnitude is the real number of its units. -/
theorem toEReal_of_isFinite {m : Magnitude} (h : m.isFinite = true) :
    m.toEReal = ((m.units / 2 ^ 1074 : ℝ) : EReal) :=
  if_pos h

theorem toEReal_of_not_isFinite {m : Magnitude} (h : ¬ m.isFinite = true) : m.toEReal = ⊤ :=
  if_neg h

/-- The infinite magnitude is the only one that is not finite. -/
theorem eq_infinity_of_not_isFinite {m : Magnitude} (h : ¬ m.isFinite = true) : m = infinity :=
  (toEReal_eq_top_iff m).mp (toEReal_of_not_isFinite h)

/-- `0 ≤ m.toEReal`. -/
theorem toEReal_nonneg (m : Magnitude) : 0 ≤ m.toEReal := by
  rw [toEReal]
  split
  · exact EReal.coe_nonneg.mpr (by positivity)
  · exact le_top

/-- `zero.toEReal = 0`. -/
@[simp] theorem toEReal_zero : zero.toEReal = 0 := by
  simp [toEReal, zero, isFinite, units_eq, infinityCode, power]

/-- **Magnitudes are ordered by their codes.** -/
theorem toEReal_lt_toEReal {m m' : Magnitude} (h : m.code < m'.code) :
    m.toEReal < m'.toEReal := by
  have hm : m.isFinite := decide_eq_true (h.trans_le m'.code_le)
  rw [toEReal, if_pos hm, toEReal]
  split
  · refine EReal.coe_lt_coe_iff.mpr (div_lt_div_of_pos_right ?_ (by positivity))
    exact_mod_cast units_lt_units h
  · exact EReal.coe_lt_top _

/-- A magnitude other than zero is positive. -/
theorem toEReal_pos {m : Magnitude} (h : 0 < m.code) : 0 < m.toEReal := by
  rw [← toEReal_zero]
  exact toEReal_lt_toEReal h

/-- Magnitudes of one code are equal. -/
theorem ext_code {m m' : Magnitude} (h : m.code = m'.code) : m = m' := by
  cases m; cases m'; cases h; rfl

/-- Zero is the only magnitude of code `0`. -/
theorem eq_zero_of_code {m : Magnitude} (h : m.code = 0) : m = zero := ext_code h

/-- `m.toEReal = 0 ↔ m.code = 0`. -/
theorem toEReal_eq_zero_iff {m : Magnitude} : m.toEReal = 0 ↔ m.code = 0 := by
  refine ⟨fun h => ?_, fun h => by rw [eq_zero_of_code h, toEReal_zero]⟩
  by_contra hne
  exact (toEReal_pos (Nat.pos_of_ne_zero hne)).ne' h

end Magnitude

namespace Binary64

/-! ## Doubles -/

/-- **The extended real number a double stands for.** NaN stands for none and is given `0`. -/
noncomputable def toEReal : Binary64 → EReal
  | nan => 0
  | signed false m => m.toEReal
  | signed true m => -m.toEReal

/-- The extended real number of a sign and a magnitude. -/
theorem toEReal_signed (s : Bool) (m : Magnitude) :
    (signed s m).toEReal = if s then -m.toEReal else m.toEReal := by
  cases s <;> rfl

/-- Every double but NaN has a place in the numeric order. -/
theorem exists_key {x : Binary64} (hx : x ≠ nan) : ∃ a, x.key = some a := by
  cases x with
  | nan => exact absurd rfl hx
  | signed negative m => cases negative <;> exact ⟨_, rfl⟩

/-- A lower place in the numeric order is a smaller number. -/
theorem toEReal_lt_of_key_lt {x y : Binary64} {a b : Int} (hx : x.key = some a)
    (hy : y.key = some b) (h : a < b) : x.toEReal < y.toEReal := by
  match x, y, hx, hy with
  | signed false m, signed false m', rfl, rfl =>
      exact Magnitude.toEReal_lt_toEReal (Int.ofNat_lt.mp h)
  | signed true m, signed true m', rfl, rfl =>
      exact EReal.neg_lt_neg_iff.mpr
        (Magnitude.toEReal_lt_toEReal (Int.ofNat_lt.mp (Int.neg_lt_neg_iff.mp h)))
  | signed false m, signed true m', rfl, rfl => omega
  | signed true m, signed false m', rfl, rfl =>
      -- the two signs meet at zero, so one of the magnitudes has to be positive
      rcases Nat.eq_zero_or_pos m.code with hzero | hpos
      · exact (EReal.neg_le_zero.mpr m.toEReal_nonneg).trans_lt
          (Magnitude.toEReal_pos (by omega))
      · exact (EReal.neg_lt_zero.mpr (Magnitude.toEReal_pos hpos)).trans_le m'.toEReal_nonneg

/-- Doubles of one place in the numeric order are the same number. -/
theorem toEReal_eq_of_key_eq {x y : Binary64} {a : Int} (hx : x.key = some a)
    (hy : y.key = some a) : x.toEReal = y.toEReal := by
  match x, y, hx, hy with
  | signed false m, signed false m', rfl, hy =>
      have hcode : m.code = m'.code := by simpa [key] using hy.symm
      rw [Magnitude.ext_code hcode]
  | signed true m, signed true m', rfl, hy =>
      have hcode : m.code = m'.code := by simpa [key] using hy.symm
      rw [Magnitude.ext_code hcode]
  | signed false m, signed true m', rfl, hy =>
      -- numbers of opposite signs share a place only at zero
      have hcode : -(m'.code : Int) = m.code := by simpa [key] using hy
      have hm : m = Magnitude.zero := Magnitude.eq_zero_of_code (by omega)
      have hm' : m' = Magnitude.zero := Magnitude.eq_zero_of_code (by omega)
      rw [hm, hm', toEReal, toEReal, Magnitude.toEReal_zero, neg_zero]
  | signed true m, signed false m', rfl, hy =>
      have hcode : (m'.code : Int) = -m.code := by simpa [key] using hy
      have hm : m = Magnitude.zero := Magnitude.eq_zero_of_code (by omega)
      have hm' : m' = Magnitude.zero := Magnitude.eq_zero_of_code (by omega)
      rw [hm, hm', toEReal, toEReal, Magnitude.toEReal_zero, neg_zero]

/-- `x.toEReal < y.toEReal ↔ a < b` for the places `a` and `b` of `x` and `y`. -/
theorem toEReal_lt_toEReal_iff {x y : Binary64} {a b : Int} (hx : x.key = some a)
    (hy : y.key = some b) : x.toEReal < y.toEReal ↔ a < b := by
  refine ⟨fun h => ?_, toEReal_lt_of_key_lt hx hy⟩
  by_contra hab
  rcases (not_lt.mp hab).lt_or_eq with hlt | heq
  · exact lt_asymm h (toEReal_lt_of_key_lt hy hx hlt)
  · subst heq
    exact h.ne (toEReal_eq_of_key_eq hx hy)

/-- `x.toEReal = y.toEReal ↔ a = b` for the places `a` and `b` of `x` and `y`. -/
theorem toEReal_eq_toEReal_iff {x y : Binary64} {a b : Int} (hx : x.key = some a)
    (hy : y.key = some b) : x.toEReal = y.toEReal ↔ a = b := by
  constructor
  · intro h
    have hlt := (toEReal_lt_toEReal_iff hx hy).not.mp h.not_lt
    have hgt := (toEReal_lt_toEReal_iff hy hx).not.mp h.symm.not_lt
    omega
  · rintro rfl
    exact toEReal_eq_of_key_eq hx hy

/-! ## Numeric comparison -/

/-- **Numeric `<` is `<` of extended real numbers.** -/
theorem below_iff {x y : Binary64} (hx : x ≠ nan) (hy : y ≠ nan) :
    x.below y = true ↔ x.toEReal < y.toEReal := by
  obtain ⟨a, ha⟩ := exists_key hx
  obtain ⟨b, hb⟩ := exists_key hy
  rw [toEReal_lt_toEReal_iff ha hb, below, ha, hb, decide_eq_true_iff]

/-- **Numeric `=` is `=` of extended real numbers.** -/
theorem equals_iff {x y : Binary64} (hx : x ≠ nan) (hy : y ≠ nan) :
    x.equals y = true ↔ x.toEReal = y.toEReal := by
  obtain ⟨a, ha⟩ := exists_key hx
  obtain ⟨b, hb⟩ := exists_key hy
  rw [toEReal_eq_toEReal_iff ha hb, equals, ha, hb, decide_eq_true_iff]

/-- Nothing is below NaN. -/
@[simp] theorem below_nan (x : Binary64) : x.below nan = false := by
  rw [below]
  cases x.key <;> rfl

/-- NaN is below nothing. -/
@[simp] theorem nan_below (x : Binary64) : nan.below x = false := rfl

/-- NaN is equal to nothing. -/
@[simp] theorem nan_equals (x : Binary64) : nan.equals x = false := rfl

/-- Nothing is equal to NaN. -/
@[simp] theorem equals_nan (x : Binary64) : x.equals nan = false := by
  rw [equals]
  cases x.key <;> rfl

/-- Values that compare as `≤` are numbers, and compare so as extended real numbers. -/
theorem toEReal_le_of_below_or_equals {x y : Binary64}
    (h : x.below y = true ∨ x.equals y = true) : x ≠ nan ∧ y ≠ nan ∧ x.toEReal ≤ y.toEReal := by
  have hx : x ≠ nan := by
    rintro rfl
    simp at h
  have hy : y ≠ nan := by
    rintro rfl
    simp at h
  rw [below_iff hx hy, equals_iff hx hy] at h
  exact ⟨hx, hy, le_iff_lt_or_eq.mpr h⟩

/-! ## Infinities -/

@[simp] theorem toEReal_infinity : infinity.toEReal = ⊤ :=
  (Magnitude.toEReal_eq_top_iff _).mpr rfl

@[simp] theorem toEReal_negInfinity : negInfinity.toEReal = ⊥ := by
  rw [negInfinity, toEReal, (Magnitude.toEReal_eq_top_iff _).mpr rfl, EReal.neg_top]

/-- `x.toEReal = ⊤ ↔ x = infinity`. -/
theorem toEReal_eq_top_iff (x : Binary64) : x.toEReal = ⊤ ↔ x = infinity := by
  refine ⟨fun h => ?_, fun h => by rw [h, toEReal_infinity]⟩
  match x, h with
  | nan, h => exact absurd h EReal.zero_ne_top
  | signed false m, h => rw [(Magnitude.toEReal_eq_top_iff m).mp h, infinity]
  | signed true m, h =>
      have hbot : m.toEReal = ⊥ := EReal.neg_eq_top_iff.mp h
      exact absurd hbot (EReal.bot_lt_zero.trans_le m.toEReal_nonneg).ne'

/-- `x.toEReal = ⊥ ↔ x = negInfinity`. -/
theorem toEReal_eq_bot_iff (x : Binary64) : x.toEReal = ⊥ ↔ x = negInfinity := by
  refine ⟨fun h => ?_, fun h => by rw [h, toEReal_negInfinity]⟩
  match x, h with
  | nan, h => exact absurd h EReal.zero_ne_bot
  | signed false m, h => exact absurd h (EReal.bot_lt_zero.trans_le m.toEReal_nonneg).ne'
  | signed true m, h =>
      have htop : m.toEReal = ⊤ := EReal.neg_eq_bot_iff.mp h
      rw [(Magnitude.toEReal_eq_top_iff m).mp htop, negInfinity]

/-- `x.equals negInfinity` for negative infinity only. -/
theorem equals_negInfinity_iff (x : Binary64) : x.equals negInfinity = true ↔ x = negInfinity := by
  by_cases hx : x = nan
  · subst hx
    exact iff_of_false (by decide) (by decide)
  · rw [equals_iff hx (by decide), toEReal_negInfinity, toEReal_eq_bot_iff]

/-- `x.equals infinity` for infinity only. -/
theorem equals_infinity_iff (x : Binary64) : x.equals infinity = true ↔ x = infinity := by
  by_cases hx : x = nan
  · subst hx
    exact iff_of_false (by decide) (by decide)
  · rw [equals_iff hx (by decide), toEReal_infinity, toEReal_eq_top_iff]

/-- `x` is finite exactly when it is neither NaN nor an infinity. -/
theorem isFinite_iff {x : Binary64} (hx : x ≠ nan) :
    x.isFinite = true ↔ x ≠ infinity ∧ x ≠ negInfinity := by
  match x, hx with
  | signed negative m, _ =>
      rw [isFinite]
      constructor
      · intro h
        constructor <;>
        · intro heq
          injection heq with _ hm
          rw [hm] at h
          exact absurd h (by decide)
      · rintro ⟨hpos, hneg⟩
        by_contra h
        obtain rfl := Magnitude.eq_infinity_of_not_isFinite h
        cases negative
        · exact hpos rfl
        · exact hneg rfl

/-! ## Boundaries and the total order -/

/-- **A boundary**: a number other than negative zero, which stands for the same point as zero. -/
structure IsBoundary (x : Binary64) : Prop where
  /-- A boundary is a number. -/
  ne_nan : x ≠ nan
  /-- Zero is written without a minus. -/
  ne_negZero : x ≠ signed true Magnitude.zero

/-- The ranks of boundaries compare as their places in the numeric order. -/
theorem IsBoundary.rank_lt_iff_key_lt {x y : Binary64} (hx : x.IsBoundary) (hy : y.IsBoundary)
    {a b : Int} (ha : x.key = some a) (hb : y.key = some b) : x.rank < y.rank ↔ a < b := by
  -- the total order tells a negative number from its magnitude only by this
  have hpos : ∀ m : Magnitude, signed true m ≠ signed true Magnitude.zero → 0 < m.code := by
    intro m hm
    refine Nat.pos_of_ne_zero fun hzero => hm ?_
    rw [Magnitude.eq_zero_of_code hzero]
  match x, y, ha, hb with
  | signed false m, signed false m', rfl, rfl => rw [rank, rank]
  | signed false m, signed true m', rfl, rfl =>
      have := hpos m' hy.ne_negZero
      rw [rank, rank]
      omega
  | signed true m, signed false m', rfl, rfl =>
      have := hpos m hx.ne_negZero
      rw [rank, rank]
      omega
  | signed true m, signed true m', rfl, rfl =>
      rw [rank, rank]
      omega

/-- **On boundaries the total `<` is the numeric one.** -/
theorem IsBoundary.rank_lt_rank_iff {x y : Binary64} (hx : x.IsBoundary) (hy : y.IsBoundary) :
    x.rank < y.rank ↔ x.toEReal < y.toEReal := by
  obtain ⟨a, ha⟩ := exists_key hx.ne_nan
  obtain ⟨b, hb⟩ := exists_key hy.ne_nan
  rw [hx.rank_lt_iff_key_lt hy ha hb, toEReal_lt_toEReal_iff ha hb]

/-- On boundaries the total `=` is the numeric one. -/
theorem IsBoundary.rank_eq_rank_iff {x y : Binary64} (hx : x.IsBoundary) (hy : y.IsBoundary) :
    x.rank = y.rank ↔ x.toEReal = y.toEReal := by
  have hlt := hx.rank_lt_rank_iff hy
  have hgt := hy.rank_lt_rank_iff hx
  constructor
  · intro h
    exact le_antisymm (not_lt.mp (hgt.not.mp h.not_gt)) (not_lt.mp (hlt.not.mp h.not_lt))
  · intro h
    exact le_antisymm (not_lt.mp (hgt.not.mpr h.not_gt)) (not_lt.mp (hlt.not.mpr h.not_lt))

end Binary64

end CubeAssessment
