import CubeAssessment.Comparison.Delta
import CubeAssessment.Proofs.Numeric.Arithmetic

/-! # What delta functions compute

A delta function is described by exact arithmetic on the values of its arguments and by the places
at which it rounds (`DeltaFunction.Computes`): a ratio and a difference are rounded once, a percent
change after each of its three operations. Where nothing is divided by zero and a number comes out,
the description determines it (`apply_eq_iff`). What is left is NaN (`apply_eq_nan_iff`) and, over a
benchmark of zero, an infinity (`apply_eq_infinity`). -/

namespace CubeAssessment

namespace DeltaFunction

open Binary64 (Rounds)

variable {f : DeltaFunction} {current benchmark : Binary64}

/-- **What a delta function gives**, by the exact values and what they are rounded to. -/
def Computes (f : DeltaFunction) (current benchmark result : Binary64) : Prop :=
  match f with
  | ratio =>
      Rounds (current.toEReal / benchmark.toEReal) (current.negative ^^ benchmark.negative) result
  | difference =>
      Rounds (current.toEReal - benchmark.toEReal) (current.negative && !benchmark.negative) result
  | percentChange => ∃ change quotient : Binary64,
      Rounds (current.toEReal - benchmark.toEReal) (current.negative && !benchmark.negative)
        change ∧
      Rounds (change.toEReal / benchmark.toEReal) (change.negative ^^ benchmark.negative) quotient ∧
      Rounds (quotient.toEReal * 100) quotient.negative result

/-- A delta function is to compute one result only. -/
theorem Computes.unique {x y : Binary64} (hx : f.Computes current benchmark x)
    (hy : f.Computes current benchmark y) : x = y := by
  match f, hx, hy with
  | ratio, hx, hy => exact Rounds.unique hx hy
  | difference, hx, hy => exact Rounds.unique hx hy
  | percentChange, ⟨change, quotient, hchange, hquotient, hx⟩,
      ⟨change', quotient', hchange', hquotient', hy⟩ =>
      obtain rfl := hchange.unique hchange'
      obtain rfl := hquotient.unique hquotient'
      exact hx.unique hy

/-- One hundred is a double. -/
theorem toEReal_hundred : hundred.toEReal = 100 := by
  have hfinite : (Magnitude.ofUnits (100 * power 2 1074) 1).isFinite = true := by decide +kernel
  have hunits : (Magnitude.ofUnits (100 * power 2 1074) 1).units = 100 * power 2 1074 := by
    decide +kernel
  have hunit : (2 ^ 1074 : ℝ) ≠ 0 := by positivity
  rw [hundred, Binary64.toEReal, Magnitude.toEReal_of_isFinite hfinite, hunits, Nat.cast_mul,
    Magnitude.cast_power_two, mul_div_cancel_right₀ _ hunit]
  rfl

/-- One hundred times a number is a number. -/
theorem mul_hundred_eq_nan_iff {x : Binary64} : x.mul hundred = .nan ↔ x = .nan := by
  have hfinite : hundred.isFinite = true := by decide +kernel
  have hne : (100 : EReal) ≠ 0 := by norm_num
  rw [Binary64.mul_eq_nan_iff, toEReal_hundred, hfinite]
  simp [hne, hundred]

/-- A number times one hundred is rounded once. -/
theorem rounds_mul_hundred {x : Binary64} (h : x ≠ .nan) :
    Rounds (x.toEReal * 100) x.negative (x.mul hundred) := by
  have hproduct := Binary64.rounds_mul (mul_hundred_eq_nan_iff.not.mpr h)
  have hsign : hundred.negative = false := rfl
  rwa [toEReal_hundred, hsign, Bool.xor_false] at hproduct

/-- A delta function gives a result that it is to compute, unless it divides by zero or ends in
NaN. -/
theorem computes_apply (hb : f = .difference ∨ benchmark.toEReal ≠ 0)
    (h : f.apply current benchmark ≠ .nan) :
    f.Computes current benchmark (f.apply current benchmark) := by
  cases f with
  | ratio => exact Binary64.rounds_div h (hb.resolve_left nofun)
  | difference => exact Binary64.rounds_sub h
  | percentChange =>
      have hquotient : (current.sub benchmark).div benchmark ≠ .nan :=
        mul_hundred_eq_nan_iff.not.mp h
      have hchange : current.sub benchmark ≠ .nan := fun hnan =>
        hquotient (Binary64.div_eq_nan_iff.mpr (Or.inl hnan))
      exact ⟨_, _, Binary64.rounds_sub hchange,
        Binary64.rounds_div hquotient (hb.resolve_left nofun), rounds_mul_hundred hquotient⟩

/-- **A delta function gives exactly what it is to compute**, unless it divides by zero or ends in
NaN. -/
theorem apply_eq_iff (hb : f = .difference ∨ benchmark.toEReal ≠ 0)
    (h : f.apply current benchmark ≠ .nan) {x : Binary64} :
    f.apply current benchmark = x ↔ f.Computes current benchmark x := by
  constructor
  · rintro rfl
    exact computes_apply hb h
  · exact (computes_apply hb h).unique

/-- A number less zero is the number, the sign of zero apart. -/
theorem toEReal_sub_of_eq_zero (h : current.sub benchmark ≠ .nan) (hzero : benchmark.toEReal = 0) :
    (current.sub benchmark).toEReal = current.toEReal := by
  have hchange := Binary64.rounds_sub h
  rw [hzero, sub_zero] at hchange
  exact hchange.toEReal_eq

/-- **Where a delta function gives no number**: a ratio of zeros or of infinities, a difference of
an infinity and itself, and a percent change from an infinity or from zero to zero. -/
theorem apply_eq_nan_iff : f.apply current benchmark = .nan ↔
    current = .nan ∨ benchmark = .nan ∨
      match f with
      | ratio => current.toEReal = 0 ∧ benchmark.toEReal = 0 ∨
          current.isFinite = false ∧ benchmark.isFinite = false
      | difference => current = benchmark ∧ current.isFinite = false
      | percentChange => current.toEReal = 0 ∧ benchmark.toEReal = 0 ∨
          benchmark.isFinite = false := by
  cases f with
  | ratio => exact Binary64.div_eq_nan_iff
  | difference => exact Binary64.sub_eq_nan_iff
  | percentChange =>
      rw [apply, mul_hundred_eq_nan_iff, Binary64.div_eq_nan_iff]
      by_cases hchange : current.sub benchmark = .nan
      · refine iff_of_true (Or.inl hchange) ?_
        rcases Binary64.sub_eq_nan_iff.mp hchange with hc | hb | ⟨rfl, hinfinite⟩
        · exact Or.inl hc
        · exact Or.inr (Or.inl hb)
        · exact Or.inr (Or.inr (Or.inr hinfinite))
      · have hc : current ≠ .nan := fun hc =>
          hchange (Binary64.sub_eq_nan_iff.mpr (Or.inl hc))
        have hinfinite : benchmark.isFinite = false → (current.sub benchmark).isFinite = false :=
          Binary64.isFinite_sub
        have hzero : (current.sub benchmark).toEReal = 0 ∧ benchmark.toEReal = 0 ↔
            current.toEReal = 0 ∧ benchmark.toEReal = 0 :=
          and_congr_left fun hb => by rw [toEReal_sub_of_eq_zero hchange hb]
        rw [hzero, and_iff_right_of_imp hinfinite, or_iff_right hchange, or_iff_right hc]

/-- **A number other than zero over a benchmark of zero is infinite**, with the signs multiplied, as
a ratio and as a percent change. -/
theorem apply_eq_infinity (hf : f ≠ .difference) (hc : current ≠ .nan)
    (hne : current.toEReal ≠ 0) (hb : benchmark ≠ .nan) (hzero : benchmark.toEReal = 0) :
    f.apply current benchmark =
      .signed (current.negative ^^ benchmark.negative) Magnitude.infinity := by
  have hratio := Binary64.div_eq_of_toEReal_eq_zero hc hne hb hzero
  cases f with
  | ratio => exact hratio
  | difference => exact absurd rfl hf
  | percentChange =>
      have hchange : current.sub benchmark ≠ .nan := by
        rw [ne_eq, Binary64.sub_eq_nan_iff]
        rintro (hnan | hnan | ⟨rfl, -⟩)
        · exact hc hnan
        · exact hb hnan
        · exact hne hzero
      have hsame : current.sub benchmark = current := by
        have hrounds := Binary64.rounds_sub hchange
        rw [hzero, sub_zero] at hrounds
        exact hrounds.unique ((Binary64.rounds_toEReal hc).of_ne_zero hne)
      rw [apply, hsame, hratio]
      cases current.negative ^^ benchmark.negative <;> decide +kernel

end DeltaFunction

end CubeAssessment
