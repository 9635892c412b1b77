import CubeAssessment.Proofs.Numeric.Nearest
import Mathlib.Data.EReal.Inv

/-! # Rounded arithmetic

Subtraction, multiplication and division of doubles give the exact result rounded once
(`Binary64.rounds_sub`, `rounds_mul`, `rounds_div`), infinite operands included, wherever they give
a number at all; `sub_eq_nan_iff`, `mul_eq_nan_iff` and `div_eq_nan_iff` say where they do not. What
a value is rounded to is described by `Binary64.Rounds` and determined by it (`Rounds.unique`). -/

namespace CubeAssessment

/-! ## Products and quotients of magnitudes -/

namespace Magnitude

variable {a b : Magnitude}

/-- A power of two as a number of units, in the reals. -/
theorem cast_power_two (k : Nat) : ((power 2 k : ℕ) : ℝ) = 2 ^ k := by
  rw [power_eq, Nat.cast_pow, Nat.cast_ofNat]

/-- Zero is finite. -/
theorem isFinite_of_code_eq_zero (h : a.code = 0) : a.isFinite = true := by
  rw [eq_zero_of_code h]
  rfl

/-- Zero is nearest to `0`. -/
theorem nearest_zero : zero.Nearest 0 := by
  have h := zero.nearest_toEReal
  rwa [toEReal_zero] at h

/-- **The product of finite magnitudes**, rounded. -/
theorem nearest_mul (ha : a.isFinite = true) (hb : b.isFinite = true) :
    (ofUnits (a.units * b.units) (power 2 1074)).Nearest (a.toEReal * b.toEReal) := by
  have h := nearest_ofUnits (n := a.units * b.units) (power_pos two_pos 1074)
  rw [toEReal_of_isFinite ha, toEReal_of_isFinite hb, ← EReal.coe_mul, div_mul_div_comm, ← div_div,
    ← Nat.cast_mul]
  rwa [cast_power_two] at h

/-- **The quotient of finite magnitudes**, rounded. -/
theorem nearest_div (ha : a.isFinite = true) (hb : b.isFinite = true) (hne : b.code ≠ 0) :
    (ofUnits (a.units * power 2 1074) b.units).Nearest (a.toEReal / b.toEReal) := by
  have hpos : 0 < b.units := units_pos (Nat.pos_of_ne_zero hne)
  have hunit : (2 ^ 1074 : ℝ) ≠ 0 := by positivity
  have h := nearest_ofUnits (n := a.units * power 2 1074) hpos
  rw [Nat.cast_mul, cast_power_two, div_right_comm, mul_div_cancel_right₀ _ hunit] at h
  rwa [toEReal_of_isFinite ha, toEReal_of_isFinite hb, ← EReal.coe_div,
    div_div_div_cancel_right₀ hunit]

/-- A product with an infinite factor is infinite, unless the other is zero. -/
theorem mul_eq_top (hinfinite : ¬ (a.isFinite && b.isFinite) = true) (ha : a.code ≠ 0)
    (hb : b.code ≠ 0) : a.toEReal * b.toEReal = ⊤ := by
  rw [Bool.and_eq_true, not_and_or] at hinfinite
  rcases hinfinite with h | h
  · rw [toEReal_of_not_isFinite h, EReal.top_mul_of_pos (toEReal_pos (Nat.pos_of_ne_zero hb))]
  · rw [toEReal_of_not_isFinite h, EReal.mul_top_of_pos (toEReal_pos (Nat.pos_of_ne_zero ha))]

end Magnitude

namespace Binary64

/-! ## Values rounded to doubles -/

/-- **A double is a value rounded**: its magnitude is nearest to the value without the sign. A value
of zero takes the sign given for it, any other value keeps its own. -/
def Rounds (v : EReal) (zeroSign : Bool) : Binary64 → Prop
  | nan => False
  | signed false m => (0 < v ∨ v = 0 ∧ zeroSign = false) ∧ m.Nearest v
  | signed true m => (v < 0 ∨ v = 0 ∧ zeroSign = true) ∧ m.Nearest (-v)

variable {v : EReal} {zeroSign : Bool} {x y : Binary64}

/-- A value is rounded under one sign only. -/
theorem Rounds.not_negative {m m' : Magnitude} (h : Rounds v zeroSign (signed false m)) :
    ¬ Rounds v zeroSign (signed true m') := by
  rintro ⟨hneg | ⟨hzero, hminus⟩, -⟩
  · exact h.1.elim hneg.not_gt fun hzero => hneg.ne hzero.1
  · refine h.1.elim (fun hpos => hpos.ne' hzero) fun hplus => ?_
    exact Bool.false_ne_true (hplus.2.symm.trans hminus)

/-- **A value is rounded to one double only.** -/
theorem Rounds.unique (hx : Rounds v zeroSign x) (hy : Rounds v zeroSign y) : x = y := by
  match x, y, hx, hy with
  | signed false m, signed false m', hx, hy => rw [hx.2.unique hy.2]
  | signed true m, signed true m', hx, hy => rw [hx.2.unique hy.2]
  | signed false m, signed true m', hx, hy => exact absurd hy hx.not_negative
  | signed true m, signed false m', hx, hy => exact absurd hx hy.not_negative

/-- A value other than zero does not depend on the sign given for zero. -/
theorem Rounds.of_ne_zero (hv : v ≠ 0) {s t : Bool} (h : Rounds v s x) : Rounds v t x := by
  match x, h with
  | signed false m, h => exact ⟨Or.inl (h.1.resolve_right fun hzero => hv hzero.1), h.2⟩
  | signed true m, h => exact ⟨Or.inl (h.1.resolve_right fun hzero => hv hzero.1), h.2⟩

/-- A magnitude nearest to a value is the value rounded, under either sign. -/
theorem rounds_signed (hv : 0 ≤ v) {m : Magnitude} (h : m.Nearest v) (s : Bool) :
    Rounds (if s then -v else v) s (signed s m) := by
  cases s with
  | false => exact ⟨hv.lt_or_eq.imp_right fun heq => ⟨heq.symm, rfl⟩, h⟩
  | true =>
      refine ⟨hv.lt_or_eq.imp (fun hpos => ?_) fun heq => ⟨?_, rfl⟩, ?_⟩
      · exact EReal.neg_lt_zero.mpr hpos
      · rw [← heq, if_pos rfl, neg_zero]
      · rw [if_pos rfl, neg_neg]
        exact h

/-- The sign bit of a number. -/
def negative : Binary64 → Bool
  | nan => false
  | signed s _ => s

/-- **Every number is its own value rounded.** -/
theorem rounds_toEReal (hx : x ≠ nan) : Rounds x.toEReal x.negative x := by
  match x, hx with
  | signed s m, _ =>
      rw [toEReal_signed]
      exact rounds_signed m.toEReal_nonneg m.nearest_toEReal s

/-- **The value of a double is rounded without error.** -/
theorem Rounds.toEReal_eq (h : Rounds y.toEReal zeroSign x) : x.toEReal = y.toEReal := by
  by_cases hzero : y.toEReal = 0
  · rw [hzero] at h ⊢
    match x, h with
    | signed false m, h => rw [h.2.unique Magnitude.nearest_zero, toEReal, Magnitude.toEReal_zero]
    | signed true m, h =>
        have hm := h.2
        rw [neg_zero] at hm
        rw [hm.unique Magnitude.nearest_zero, toEReal, Magnitude.toEReal_zero, neg_zero]
  · have hy : y ≠ nan := by
      rintro rfl
      exact hzero rfl
    rw [h.unique ((rounds_toEReal hy).of_ne_zero hzero)]

/-- An infinite double is its infinity rounded. -/
theorem rounds_infinite {s : Bool} {m : Magnitude} (zeroSign : Bool) (h : ¬ m.isFinite = true)
    (hv : v = if s then ⊥ else ⊤) : Rounds v zeroSign (signed s m) := by
  have hrounds := rounds_signed le_top Magnitude.nearest_infinity s
  rw [EReal.neg_top, ← hv] at hrounds
  rw [Magnitude.eq_infinity_of_not_isFinite h]
  refine hrounds.of_ne_zero ?_
  rw [hv]
  cases s with
  | false => exact EReal.top_ne_zero
  | true => exact EReal.bot_ne_zero

/-- Only the magnitude of zero is of value `0`. -/
theorem toEReal_signed_eq_zero_iff {s : Bool} {m : Magnitude} :
    (signed s m).toEReal = 0 ↔ m.code = 0 := by
  cases s with
  | false => exact Magnitude.toEReal_eq_zero_iff
  | true => rw [toEReal, EReal.neg_eq_zero_iff, Magnitude.toEReal_eq_zero_iff]

/-! ## Multiplication -/

/-- **Where a product is undefined**: zero times infinity. -/
theorem mul_eq_nan_iff : x.mul y = nan ↔ x = nan ∨ y = nan ∨
    x.toEReal = 0 ∧ y.isFinite = false ∨ x.isFinite = false ∧ y.toEReal = 0 := by
  match x, y with
  | nan, _ => exact iff_of_true rfl (Or.inl rfl)
  | signed s a, nan => exact iff_of_true rfl (Or.inr (Or.inl rfl))
  | signed s a, signed t b =>
      have ha := Magnitude.isFinite_of_code_eq_zero (a := a)
      have hb := Magnitude.isFinite_of_code_eq_zero (a := b)
      rw [toEReal_signed_eq_zero_iff, toEReal_signed_eq_zero_iff, mul, isFinite, isFinite]
      cases hfa : a.isFinite <;> cases hfb : b.isFinite <;> grind

/-- **A product is rounded once.** -/
theorem rounds_mul (h : x.mul y ≠ nan) :
    Rounds (x.toEReal * y.toEReal) (x.negative ^^ y.negative) (x.mul y) := by
  match x, y with
  | nan, _ => exact absurd rfl h
  | signed s a, nan => exact absurd rfl h
  | signed s a, signed t b =>
      have hsigns : (signed s a).toEReal * (signed t b).toEReal =
          if (s ^^ t) = true then -(a.toEReal * b.toEReal) else a.toEReal * b.toEReal := by
        rw [toEReal_signed, toEReal_signed]
        cases s <;> cases t <;> simp [neg_mul, mul_neg]
      have hnonneg := EReal.mul_nonneg a.toEReal_nonneg b.toEReal_nonneg
      rw [hsigns]
      rw [mul] at h ⊢
      split at h
      · next hfinite =>
        rw [if_pos hfinite]
        rw [Bool.and_eq_true] at hfinite
        exact rounds_signed hnonneg (Magnitude.nearest_mul hfinite.1 hfinite.2) _
      · next hinfinite =>
        rw [if_neg hinfinite]
        split at h
        · exact absurd rfl h
        · next hzero =>
          rw [if_neg hzero]
          rw [Bool.or_eq_true, not_or, decide_eq_true_iff, decide_eq_true_iff] at hzero
          refine rounds_signed hnonneg ?_ _
          rw [Magnitude.mul_eq_top hinfinite hzero.1 hzero.2]
          exact Magnitude.nearest_infinity

/-! ## Division -/

/-- **Where a quotient is undefined**: `0 / 0` and `∞ / ∞`. -/
theorem div_eq_nan_iff : x.div y = nan ↔ x = nan ∨ y = nan ∨
    x.toEReal = 0 ∧ y.toEReal = 0 ∨ x.isFinite = false ∧ y.isFinite = false := by
  match x, y with
  | nan, _ => exact iff_of_true rfl (Or.inl rfl)
  | signed s a, nan => exact iff_of_true rfl (Or.inr (Or.inl rfl))
  | signed s a, signed t b =>
      have ha := Magnitude.isFinite_of_code_eq_zero (a := a)
      have hb := Magnitude.isFinite_of_code_eq_zero (a := b)
      rw [toEReal_signed_eq_zero_iff, toEReal_signed_eq_zero_iff, div, isFinite, isFinite]
      cases hfa : a.isFinite <;> cases hfb : b.isFinite <;> grind

/-- **A quotient is rounded once**, unless the divisor is zero. -/
theorem rounds_div (h : x.div y ≠ nan) (hy : y.toEReal ≠ 0) :
    Rounds (x.toEReal / y.toEReal) (x.negative ^^ y.negative) (x.div y) := by
  match x, y with
  | nan, _ => exact absurd rfl h
  | signed s a, nan => exact absurd rfl h
  | signed s a, signed t b =>
      have hsigns : (signed s a).toEReal / (signed t b).toEReal =
          if (s ^^ t) = true then -(a.toEReal / b.toEReal) else a.toEReal / b.toEReal := by
        rw [toEReal_signed, toEReal_signed]
        cases s <;> cases t <;> simp [EReal.div_eq_inv_mul, EReal.inv_neg, neg_mul, mul_neg]
      have hnonneg := EReal.div_nonneg a.toEReal_nonneg b.toEReal_nonneg
      have hne : b.code ≠ 0 := toEReal_signed_eq_zero_iff.not.mp hy
      rw [hsigns]
      by_cases ha : a.isFinite = true
      · by_cases hb : b.isFinite = true
        · simp only [div, ha, hb, if_neg hne]
          exact rounds_signed hnonneg (Magnitude.nearest_div ha hb hne) _
        · simp only [div, ha, hb]
          refine rounds_signed hnonneg ?_ _
          rw [Magnitude.toEReal_of_not_isFinite hb, EReal.div_top]
          exact Magnitude.nearest_zero
      · by_cases hb : b.isFinite = true
        · simp only [div, ha, hb]
          refine rounds_signed hnonneg ?_ _
          have hpos := Magnitude.toEReal_pos (Nat.pos_of_ne_zero hne)
          have htop : b.toEReal ≠ ⊤ := by
            rw [Magnitude.toEReal_of_isFinite hb]
            exact EReal.coe_ne_top _
          rw [Magnitude.toEReal_of_not_isFinite ha, EReal.top_div_of_pos_ne_top hpos htop]
          exact Magnitude.nearest_infinity
        · simp only [div, ha, hb] at h
          exact absurd rfl h

/-- A number other than zero divided by zero is infinite, with the signs multiplied. -/
theorem div_eq_of_toEReal_eq_zero (hx : x ≠ nan) (hne : x.toEReal ≠ 0) (hy : y ≠ nan)
    (hzero : y.toEReal = 0) :
    x.div y = signed (x.negative ^^ y.negative) Magnitude.infinity := by
  match x, y, hx, hy with
  | signed s a, signed t b, _, _ =>
      rw [ne_eq, toEReal_signed_eq_zero_iff] at hne
      rw [toEReal_signed_eq_zero_iff] at hzero
      have hb := Magnitude.isFinite_of_code_eq_zero hzero
      by_cases ha : a.isFinite = true
      · simp only [div, ha, hb, if_pos hzero, if_neg hne, negative]
      · simp only [div, ha, hb, negative]

/-! ## Subtraction -/

/-- **Where a difference is undefined**: equal infinities have none. -/
theorem sub_eq_nan_iff :
    x.sub y = nan ↔ x = nan ∨ y = nan ∨ x = y ∧ x.isFinite = false := by
  match x, y with
  | nan, _ => exact iff_of_true rfl (Or.inl rfl)
  | signed s a, nan => exact iff_of_true rfl (Or.inr (Or.inl rfl))
  | signed s a, signed t b =>
      rw [sub, isFinite]
      have ha := Magnitude.eq_infinity_of_not_isFinite (m := a)
      have hb := Magnitude.eq_infinity_of_not_isFinite (m := b)
      cases hfa : a.isFinite <;> cases hfb : b.isFinite <;> grind

/-- A difference from an infinity is no real number. -/
theorem isFinite_sub (h : y.isFinite = false) : (x.sub y).isFinite = false := by
  match x, y with
  | nan, _ => rfl
  | signed s a, nan => rfl
  | signed s a, signed t b =>
      rw [isFinite] at h
      rw [sub]
      cases hfa : a.isFinite <;> grind [isFinite]

/-- The value of a finite double, in units. -/
theorem toEReal_eq_signedUnits (s : Bool) {m : Magnitude} (h : m.isFinite = true) :
    (signed s m).toEReal = ((signedUnits s m / 2 ^ 1074 : ℝ) : EReal) := by
  rw [toEReal_signed, Magnitude.toEReal_of_isFinite h, signedUnits]
  cases s with
  | false => simp
  | true => simp [neg_div]

/-- The value of a finite double is no infinity. -/
theorem toEReal_ne_of_isFinite (s : Bool) {m : Magnitude} (h : m.isFinite = true) :
    (signed s m).toEReal ≠ ⊥ ∧ (signed s m).toEReal ≠ ⊤ := by
  rw [toEReal_eq_signedUnits s h]
  exact ⟨EReal.coe_ne_bot _, EReal.coe_ne_top _⟩

/-- A whole number of units other than zero is rounded under its own sign. -/
theorem rounds_ofUnits_natAbs {k : Int} (hk : k ≠ 0) (zeroSign : Bool) :
    Rounds ((k / 2 ^ 1074 : ℝ) : EReal) zeroSign
      (signed (decide (k < 0)) (Magnitude.ofUnits k.natAbs 1)) := by
  have hpos : (0 : ℝ) < 2 ^ 1074 := by positivity
  have hvalue : ((k / 2 ^ 1074 : ℝ) : EReal) ≠ 0 := by
    rw [← EReal.coe_zero, ne_eq, EReal.coe_eq_coe_iff]
    exact div_ne_zero (by exact_mod_cast hk) hpos.ne'
  have hsign : ((k / 2 ^ 1074 : ℝ) : EReal) = if decide (k < 0) = true
      then -((k.natAbs / 2 ^ 1074 : ℝ) : EReal) else ((k.natAbs / 2 ^ 1074 : ℝ) : EReal) := by
    rw [Nat.cast_natAbs, Int.cast_abs]
    rcases lt_or_ge k 0 with hneg | hnonneg
    · rw [if_pos (decide_eq_true hneg), abs_of_neg (by exact_mod_cast hneg), neg_div,
        EReal.coe_neg, neg_neg]
    · rw [if_neg (by simpa using hnonneg), abs_of_nonneg (by exact_mod_cast hnonneg)]
  refine Rounds.of_ne_zero hvalue (s := decide (k < 0)) ?_
  rw [hsign]
  exact rounds_signed (EReal.coe_nonneg.mpr (by positivity)) (Magnitude.nearest_ofUnits_one _) _

/-- The difference of finite doubles is rounded once. -/
theorem rounds_sub_of_isFinite (s t : Bool) {a b : Magnitude} (ha : a.isFinite = true)
    (hb : b.isFinite = true) : Rounds ((signed s a).toEReal - (signed t b).toEReal) (s && !t)
      ((signed s a).sub (signed t b)) := by
  rw [toEReal_eq_signedUnits s ha, toEReal_eq_signedUnits t hb, ← EReal.coe_sub, ← sub_div,
    ← Int.cast_sub]
  simp only [sub, ha, hb]
  generalize signedUnits s a - signedUnits t b = difference
  by_cases hzero : difference = 0
  · rw [if_pos hzero, hzero, Int.cast_zero, zero_div, EReal.coe_zero]
    have h := rounds_signed le_rfl Magnitude.nearest_zero (s && !t)
    rwa [neg_zero, ite_self] at h
  · rw [if_neg hzero]
    exact rounds_ofUnits_natAbs hzero _

/-- **A difference is rounded once.** -/
theorem rounds_sub (h : x.sub y ≠ nan) :
    Rounds (x.toEReal - y.toEReal) (x.negative && !y.negative) (x.sub y) := by
  match x, y with
  | nan, _ => exact absurd rfl h
  | signed s a, nan => exact absurd rfl h
  | signed s a, signed t b =>
      by_cases ha : a.isFinite = true
      · by_cases hb : b.isFinite = true
        · exact rounds_sub_of_isFinite s t ha hb
        · simp only [sub, ha, hb]
          refine rounds_infinite _ hb ?_
          rw [toEReal_signed t, Magnitude.toEReal_of_not_isFinite hb]
          cases t with
          | false => exact EReal.sub_top _
          | true => exact EReal.sub_bot (toEReal_ne_of_isFinite s ha).1
      · rw [toEReal_signed s, Magnitude.toEReal_of_not_isFinite ha]
        by_cases hb : b.isFinite = true
        · simp only [sub, ha, hb]
          refine rounds_infinite _ ha ?_
          cases s with
          | false => exact EReal.top_sub (toEReal_ne_of_isFinite t hb).2
          | true => exact EReal.bot_sub _
        · simp only [sub, ha, hb] at h ⊢
          by_cases hsigns : s = t
          · exact absurd (if_pos hsigns) h
          · obtain rfl := Bool.eq_not_of_ne hsigns
            rw [if_neg hsigns]
            refine rounds_infinite _ ha ?_
            rw [toEReal_signed t, Magnitude.toEReal_of_not_isFinite hb]
            cases t <;> rfl

end Binary64

end CubeAssessment
