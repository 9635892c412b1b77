import CubeAssessment.Proofs.Numeric.Overflow

/-! # The nearest magnitude

Rounding to a magnitude is described apart from how it is computed: `m.Nearest v` says that no
finite magnitude is nearer to the value `v` than `m`, that a tie goes to an even code, and where the
infinite magnitude takes over. At most one magnitude is nearest (`Nearest.unique`), and it is the
one that a fraction of units is rounded to (`nearest_ofUnits`) and that a decimal literal is read as
(`Decimal.nearest_toMagnitude`). -/

namespace CubeAssessment

/-! ## Rounding to a natural number -/

/-- **Rounding to a natural number goes half a step at most**, and half a step only to an even
number. -/
theorem two_mul_roundHalfEven {n d : Nat} (hd : 0 < d) :
    (2 * n ≤ 2 * (roundHalfEven n d * d) + d ∧ 2 * (roundHalfEven n d * d) ≤ 2 * n + d) ∧
      (2 * n = 2 * (roundHalfEven n d * d) + d ∨ 2 * (roundHalfEven n d * d) = 2 * n + d →
        roundHalfEven n d % 2 = 0) := by
  have hstep : ∀ k, (2 * k + 1) * d = 2 * (k * d) + d := fun k => by ring
  have hupper := (roundHalfEven_le_iff (n := n) hd).mp le_rfl
  -- the number before it would be too small
  have hlower : ∀ k, k + 1 = roundHalfEven n d →
      ¬ (2 * n < (2 * k + 1) * d ∨ 2 * n = (2 * k + 1) * d ∧ k % 2 = 0) := by
    intro k hk
    rw [← roundHalfEven_le_iff hd]
    omega
  generalize roundHalfEven n d = r at hupper hlower ⊢
  simp only [hstep] at hupper hlower
  cases r with
  | zero => omega
  | succ k =>
      have hbelow := hlower k rfl
      have hnext : (k + 1) * d = k * d + d := Nat.succ_mul k d
      simp only [hnext] at hupper ⊢
      omega

/-- The distance of a fraction from the number it rounds to, in the reals. -/
theorem abs_sub_roundHalfEven_le {n d : Nat} (hd : 0 < d) :
    |(n / d : ℝ) - roundHalfEven n d| ≤ 1 / 2 ∧
      (|(n / d : ℝ) - roundHalfEven n d| = 1 / 2 → roundHalfEven n d % 2 = 0) := by
  obtain ⟨⟨hle, hge⟩, heven⟩ := two_mul_roundHalfEven (n := n) hd
  generalize roundHalfEven n d = r at hle hge heven ⊢
  have hpos : (0 : ℝ) < d := by exact_mod_cast hd
  have hvalue : (n / d : ℝ) - r = (2 * n - 2 * (r * d)) / (2 * d) := by field_simp
  have hle' : (2 * n : ℝ) ≤ 2 * (r * d) + d := by exact_mod_cast hle
  have hge' : (2 * (r * d) : ℝ) ≤ 2 * n + d := by exact_mod_cast hge
  have hnumerator : |(2 * n - 2 * (r * d) : ℝ)| ≤ d := abs_le.mpr ⟨by linarith, by linarith⟩
  rw [hvalue, abs_div, abs_of_pos (mul_pos two_pos hpos)]
  constructor
  · rw [div_le_iff₀ (by positivity)]
    linarith
  · intro h
    rw [div_eq_iff (by positivity)] at h
    have htie : |(2 * n - 2 * (r * d) : ℝ)| = d := by linarith
    refine heven ?_
    rcases (abs_eq hpos.le).mp htie with heq | heq
    · have heq' : (2 * n : ℝ) = 2 * (r * d) + d := by linarith
      exact Or.inl (by exact_mod_cast heq')
    · have heq' : (2 * (r * d) : ℝ) = 2 * n + d := by linarith
      exact Or.inr (by exact_mod_cast heq')

/-- **No natural number is nearer to a fraction than the one it rounds to**, and one as near leaves
the tie to an even number. -/
theorem roundHalfEven_nearest {n d k : Nat} (hd : 0 < d) (hk : k ≠ roundHalfEven n d) :
    |(n / d : ℝ) - roundHalfEven n d| ≤ |(n / d : ℝ) - k| ∧
      (|(n / d : ℝ) - roundHalfEven n d| = |(n / d : ℝ) - k| → roundHalfEven n d % 2 = 0) := by
  obtain ⟨hhalf, heven⟩ := abs_sub_roundHalfEven_le (n := n) hd
  have hone : (1 : ℝ) ≤ |(roundHalfEven n d : ℝ) - k| := by
    have hne : (roundHalfEven n d : ℤ) - k ≠ 0 := by omega
    exact_mod_cast Int.one_le_abs hne
  have htriangle := abs_sub_le (roundHalfEven n d : ℝ) (n / d) k
  rw [abs_sub_comm _ (n / d : ℝ)] at htriangle
  exact ⟨by linarith, fun htie => heven (by linarith)⟩

/-- **Rounding to the multiples of a step** is nearest among these and all numbers below a multiple
that the value reaches. -/
theorem abs_sub_mul_roundHalfEven {n d u p : Nat} (hd : 0 < d) (hp : 0 < p)
    (hne : u ≠ roundHalfEven n (d * p) * p)
    (hu : (∃ k, u = k * p) ∨ ∃ k, u < k * p ∧ k * (d * p) ≤ n) :
    |(n / d : ℝ) - (roundHalfEven n (d * p) * p : ℕ)| ≤ |(n / d : ℝ) - u| ∧
      (|(n / d : ℝ) - (roundHalfEven n (d * p) * p : ℕ)| = |(n / d : ℝ) - u| →
        roundHalfEven n (d * p) % 2 = 0) := by
  have hstep : 0 < d * p := Nat.mul_pos hd hp
  have hd' : (0 : ℝ) < d := by exact_mod_cast hd
  have hp' : (0 : ℝ) < p := by exact_mod_cast hp
  -- distances from multiples, counted in steps
  have hscale : ∀ k : ℕ, |(n / d : ℝ) - (k * p : ℕ)| = |(n / (d * p : ℕ) : ℝ) - k| * p := by
    intro k
    have hsteps : (n / d : ℝ) - (k * p : ℕ) = (n / (d * p : ℕ) - k) * p := by
      push_cast
      field_simp
    rw [hsteps, abs_mul, abs_of_pos hp']
  rcases hu with ⟨k, rfl⟩ | ⟨k, hlt, hreached⟩
  · have hk : k ≠ roundHalfEven n (d * p) := by
      rintro rfl
      exact hne rfl
    obtain ⟨hle, heven⟩ := roundHalfEven_nearest hstep hk
    rw [hscale, hscale]
    exact ⟨mul_le_mul_of_nonneg_right hle hp'.le,
      fun htie => heven (mul_right_cancel₀ hp'.ne' htie)⟩
  · have hvalue : ((k * p : ℕ) : ℝ) ≤ n / d := by
      rw [le_div_iff₀ hd', ← Nat.cast_mul, Nat.cast_le]
      calc k * p * d = k * (d * p) := by rw [Nat.mul_assoc, Nat.mul_comm p d]
        _ ≤ n := hreached
    have hbelow : (u : ℝ) < (k * p : ℕ) := by exact_mod_cast hlt
    have hnear : |(n / d : ℝ) - (roundHalfEven n (d * p) * p : ℕ)| ≤
        |(n / d : ℝ) - (k * p : ℕ)| := by
      by_cases hk : k = roundHalfEven n (d * p)
      · rw [← hk]
      · rw [hscale, hscale]
        exact mul_le_mul_of_nonneg_right (roundHalfEven_nearest hstep hk).1 hp'.le
    -- the multiple lies between the number and the value
    have hfar : |(n / d : ℝ) - (k * p : ℕ)| < |(n / d : ℝ) - u| := by
      rw [abs_of_nonneg (by linarith), abs_of_pos (by linarith)]
      linarith
    exact ⟨(hnear.trans_lt hfar).le, fun htie => absurd htie (hnear.trans_lt hfar).ne⟩

namespace Magnitude

/-! ## The units of a rounded fraction -/

/-- The units of an exponent field and a significand that has its leading bit, unless the field is
the lowest one. -/
theorem units_of_code {m : Magnitude} {t r : Nat} (hcode : m.code = t * 2 ^ 52 + r)
    (hcarry : r ≤ 2 ^ 53) (hleading : 0 < t → 2 ^ 52 ≤ r) : m.units = r * 2 ^ t := by
  rw [units_eq, hcode]
  by_cases hsubnormal : t * 2 ^ 52 + r < 2 ^ 52
  · have ht : t = 0 := by omega
    rw [if_pos hsubnormal, ht]
    omega
  · rw [if_neg hsubnormal]
    rcases hcarry.lt_or_eq with hlt | rfl
    · have hdiv : (t * 2 ^ 52 + r) / 2 ^ 52 = t + 1 := by omega
      have hmod : 2 ^ 52 + (t * 2 ^ 52 + r) % 2 ^ 52 = r := by omega
      rw [hdiv, hmod, Nat.add_sub_cancel]
    · -- the carry leaves the smallest significand, one exponent field further on
      have hdiv : (t * 2 ^ 52 + 2 ^ 53) / 2 ^ 52 - 1 = t + 1 := by omega
      have hmod : (t * 2 ^ 52 + 2 ^ 53) % 2 ^ 52 = 0 := by omega
      rw [hdiv, hmod, Nat.add_zero, pow_succ' 2 t, ← Nat.mul_assoc, ← pow_succ]

/-- The code of a fraction that does not overflow. -/
theorem code_ofUnits_of_isFinite {n d : Nat} (hfinite : (ofUnits n d).isFinite = true) :
    (ofUnits n d).code =
      ((n / d).log2 - 52) * 2 ^ 52 + roundHalfEven n (d * 2 ^ ((n / d).log2 - 52)) := by
  have hcode : (ofUnits n d).code < infinityCode := of_decide_eq_true hfinite
  rw [code_ofUnits] at hcode ⊢
  exact min_eq_left (by omega)

/-- **A fraction of units is rounded to a multiple of the step that its size asks for.** -/
theorem units_ofUnits {n d : Nat} (hd : 0 < d) (hfinite : (ofUnits n d).isFinite = true) :
    (ofUnits n d).units =
      roundHalfEven n (d * 2 ^ ((n / d).log2 - 52)) * 2 ^ ((n / d).log2 - 52) := by
  obtain ⟨hcarry, hbits⟩ := significand_bounds (n := n) hd
  exact units_of_code (code_ofUnits_of_isFinite hfinite) hcarry fun ht => hbits (by omega)

/-- **The units of a magnitude are a multiple of a power of two**, unless they are less than those
of the magnitudes whose significand counts that power. -/
theorem units_eq_mul_or_lt (m : Magnitude) (t : Nat) :
    (∃ k, m.units = k * 2 ^ t) ∨ 0 < t ∧ m.units < 2 ^ 52 * 2 ^ t := by
  rcases Nat.eq_zero_or_pos t with rfl | ht
  · exact Or.inl ⟨m.units, by rw [pow_zero, Nat.mul_one]⟩
  · rw [units_eq]
    by_cases hsubnormal : m.code < 2 ^ 52
    · rw [if_pos hsubnormal]
      exact Or.inr ⟨ht, hsubnormal.trans_le (Nat.le_mul_of_pos_right _ (Nat.two_pow_pos t))⟩
    · rw [if_neg hsubnormal]
      have hfraction : m.code % 2 ^ 52 < 2 ^ 52 := Nat.mod_lt _ (Nat.two_pow_pos 52)
      generalize m.code / 2 ^ 52 - 1 = e
      rcases Nat.lt_or_ge e t with hlt | hge
      · refine Or.inr ⟨ht, ?_⟩
        calc (2 ^ 52 + m.code % 2 ^ 52) * 2 ^ e < 2 ^ 53 * 2 ^ e :=
              Nat.mul_lt_mul_of_pos_right (by omega) (Nat.two_pow_pos e)
          _ = 2 ^ 52 * 2 ^ (e + 1) := by rw [pow_succ' 2 e, ← Nat.mul_assoc, ← pow_succ]
          _ ≤ 2 ^ 52 * 2 ^ t := Nat.mul_le_mul_left _ (Nat.pow_le_pow_right (by decide) hlt)
      · refine Or.inl ⟨(2 ^ 52 + m.code % 2 ^ 52) * 2 ^ (e - t), ?_⟩
        rw [Nat.mul_assoc, ← pow_add, Nat.sub_add_cancel hge]

/-- Magnitudes of the same units are equal. -/
theorem eq_of_units_eq {m m' : Magnitude} (h : m.units = m'.units) : m = m' := by
  refine ext_code ?_
  rcases lt_trichotomy m.code m'.code with hlt | heq | hgt
  · exact absurd h (units_lt_units hlt).ne
  · exact heq
  · exact absurd h (units_lt_units hgt).ne'

/-- **No magnitude is nearer to a fraction of units than the finite one it rounds to**, and one as
near leaves the tie to an even code. -/
theorem abs_sub_units_ofUnits {n d : Nat} (hd : 0 < d) (hfinite : (ofUnits n d).isFinite = true)
    {other : Magnitude} (hne : other ≠ ofUnits n d) :
    |(n / d : ℝ) - (ofUnits n d).units| ≤ |(n / d : ℝ) - other.units| ∧
      (|(n / d : ℝ) - (ofUnits n d).units| = |(n / d : ℝ) - other.units| →
        (ofUnits n d).code % 2 = 0) := by
  obtain ⟨hlow, -⟩ := fraction_bounds (n := n) hd
  have hunits := units_ofUnits hd hfinite
  have hother : other.units ≠ (ofUnits n d).units := fun h => hne (eq_of_units_eq h)
  have hmultiple : (∃ k, other.units = k * 2 ^ ((n / d).log2 - 52)) ∨
      ∃ k, other.units < k * 2 ^ ((n / d).log2 - 52) ∧ k * (d * 2 ^ ((n / d).log2 - 52)) ≤ n := by
    refine (units_eq_mul_or_lt other _).imp_right fun ⟨ht, hlt⟩ => ⟨2 ^ 52, hlt, ?_⟩
    -- above the lowest exponent fields the value has a significand with its leading bit
    calc 2 ^ 52 * (d * 2 ^ ((n / d).log2 - 52)) = 2 ^ (52 + ((n / d).log2 - 52)) * d := by
          rw [pow_add]; ring
      _ = 2 ^ (n / d).log2 * d := by rw [Nat.add_sub_cancel' (by omega)]
      _ ≤ n := hlow (by omega)
  rw [hunits] at hother ⊢
  obtain ⟨hle, heven⟩ := abs_sub_mul_roundHalfEven hd (Nat.two_pow_pos _) hother hmultiple
  refine ⟨hle, fun htie => ?_⟩
  have hsignificand := heven htie
  rw [code_ofUnits_of_isFinite hfinite]
  omega

/-! ## The nearest magnitude -/

/-- **A magnitude is nearest to a value.** The infinite one is, from the least value that overflows
on. Below it no finite magnitude is nearer, and where another one is as near the code is even. -/
structure Nearest (v : EReal) (m : Magnitude) : Prop where
  /-- The magnitude is finite exactly when the value does not overflow. -/
  isFinite_iff : m.isFinite = true ↔ v < ((Decimal.overflowBound : ℝ) : EReal)
  /-- No finite magnitude is nearer. -/
  least : m.isFinite = true → ∀ other : Magnitude, other.isFinite = true →
    |v.toReal - m.toEReal.toReal| ≤ |v.toReal - other.toEReal.toReal|
  /-- A tie goes to an even code. -/
  even : m.isFinite = true → ∀ other : Magnitude, other.isFinite = true → other ≠ m →
    |v.toReal - m.toEReal.toReal| = |v.toReal - other.toEReal.toReal| → m.code % 2 = 0

/-- The real number of a finite magnitude. -/
theorem toReal_toEReal {m : Magnitude} (h : m.isFinite = true) :
    m.toEReal.toReal = m.units / 2 ^ 1074 := by
  rw [toEReal_of_isFinite h, EReal.toReal_coe]

/-- A distance of reals by the distance in units. -/
theorem abs_sub_toReal {x : ℝ} {m : Magnitude} (h : m.isFinite = true) :
    |((x / 2 ^ 1074 : ℝ) : EReal).toReal - m.toEReal.toReal| = |x - m.units| / 2 ^ 1074 := by
  have hpos : (0 : ℝ) < 2 ^ 1074 := by positivity
  rw [EReal.toReal_coe, toReal_toEReal h, ← sub_div, abs_div, abs_of_pos hpos]

/-- **A fraction of units is rounded to the nearest magnitude.** -/
theorem nearest_ofUnits {n d : Nat} (hd : 0 < d) :
    (ofUnits n d).Nearest ((n / d / 2 ^ 1074 : ℝ) : EReal) := by
  have hpos : (0 : ℝ) < 2 ^ 1074 := by positivity
  refine ⟨?_, fun hfinite other hother => ?_, fun hfinite other hother hne htie => ?_⟩
  · have hvalue : (n / d / 2 ^ 1074 : ℚ) * 2 ^ 1074 * d = n := by
      have hd' : (d : ℚ) ≠ 0 := by exact_mod_cast hd.ne'
      field_simp
    rw [isFinite_ofUnits_iff hd, Decimal.overflows_iff hd hvalue, EReal.coe_lt_coe_iff,
      ← Rat.cast_lt (K := ℝ)]
    push_cast
    rfl
  · rw [abs_sub_toReal hfinite, abs_sub_toReal hother]
    refine div_le_div_of_nonneg_right ?_ hpos.le
    by_cases hne : other = ofUnits n d
    · rw [hne]
    · exact (abs_sub_units_ofUnits hd hfinite hne).1
  · rw [abs_sub_toReal hfinite, abs_sub_toReal hother] at htie
    exact (abs_sub_units_ofUnits hd hfinite hne).2 ((div_left_inj' hpos.ne').mp htie)

/-- A whole number of units is rounded to the nearest magnitude. -/
theorem nearest_ofUnits_one (n : Nat) : (ofUnits n 1).Nearest ((n / 2 ^ 1074 : ℝ) : EReal) := by
  have h := nearest_ofUnits (n := n) Nat.one_pos
  rwa [Nat.cast_one, div_one] at h

/-- The infinite magnitude is nearest to `∞`. -/
theorem nearest_infinity : infinity.Nearest ⊤ where
  isFinite_iff := iff_of_false (by decide) not_top_lt
  least h := absurd h (by decide)
  even h := absurd h (by decide)

/-- **Every magnitude is nearest to its own value.** -/
theorem nearest_toEReal (m : Magnitude) : m.Nearest m.toEReal := by
  by_cases hm : m.isFinite = true
  · have h := nearest_ofUnits_one m.units
    rwa [ofUnits_units hm, ← toEReal_of_isFinite hm] at h
  · rw [toEReal_of_not_isFinite hm, eq_infinity_of_not_isFinite hm]
    exact nearest_infinity

/-- A larger code is a larger real number. -/
theorem toReal_lt_toReal {m m' : Magnitude} (h : m.code < m'.code) (hm' : m'.isFinite = true) :
    m.toEReal.toReal < m'.toEReal.toReal := by
  have hm : m.isFinite = true := decide_eq_true (h.trans (of_decide_eq_true hm'))
  rw [toReal_toEReal hm, toReal_toEReal hm']
  exact div_lt_div_of_pos_right (by exact_mod_cast units_lt_units h) (by positivity)

/-- Of two magnitudes nearest to a value none is below the other: both would be of even code and
equally near, and a magnitude between them nearer. -/
theorem Nearest.code_le {v : EReal} {m m' : Magnitude} (h : m.Nearest v) (h' : m'.Nearest v)
    (hm' : m'.isFinite = true) : m'.code ≤ m.code := by
  by_contra hlt
  have hcode : m.code < m'.code := not_le.mp hlt
  have hm : m.isFinite = true := h.isFinite_iff.mpr (h'.isFinite_iff.mp hm')
  have hne : m' ≠ m := by
    rintro rfl
    exact lt_irrefl _ hcode
  have htie := le_antisymm (h.least hm m' hm') (h'.least hm' m hm)
  have heven := h.even hm m' hm' hne htie
  have heven' := h'.even hm' m hm hne.symm htie.symm
  obtain ⟨next, habove, hbelow⟩ : ∃ next : Magnitude, m.code < next.code ∧ next.code < m'.code :=
    ⟨⟨m.code + 1, by have := m'.code_le; omega⟩, Nat.lt_succ_self _,
      show m.code + 1 < m'.code by omega⟩
  have hnext : next.isFinite = true := decide_eq_true (hbelow.trans (of_decide_eq_true hm'))
  have hlow := toReal_lt_toReal habove hnext
  have hhigh := toReal_lt_toReal hbelow hm'
  -- the value is half way between the two
  have hmiddle : v.toReal - m.toEReal.toReal = m'.toEReal.toReal - v.toReal := by
    rcases abs_eq_abs.mp htie with heq | heq
    · linarith
    · linarith
  have hnearer : |v.toReal - next.toEReal.toReal| < v.toReal - m.toEReal.toReal :=
    abs_lt.mpr ⟨by linarith, by linarith⟩
  have hleast := h.least hm next hnext
  rw [abs_of_nonneg (by linarith)] at hleast
  exact absurd hleast (not_le.mpr hnearer)

/-- **At most one magnitude is nearest to a value.** -/
theorem Nearest.unique {v : EReal} {m m' : Magnitude} (h : m.Nearest v) (h' : m'.Nearest v) :
    m = m' := by
  by_cases hm : m.isFinite = true
  · have hm' : m'.isFinite = true := h'.isFinite_iff.mpr (h.isFinite_iff.mp hm)
    exact ext_code (le_antisymm (h'.code_le h hm) (h.code_le h' hm'))
  · have hm' : ¬ m'.isFinite = true := fun hfinite =>
      hm (h.isFinite_iff.mpr (h'.isFinite_iff.mp hfinite))
    rw [eq_infinity_of_not_isFinite hm, eq_infinity_of_not_isFinite hm']

end Magnitude

/-- **A decimal literal is read as the magnitude nearest to its value.** -/
theorem Decimal.nearest_toMagnitude (x : Decimal) :
    x.toMagnitude.Nearest ((x.value : ℝ) : EReal) := by
  have hd : (x.unitsFraction.2 : ℝ) ≠ 0 := by exact_mod_cast (unitsFraction_pos x).ne'
  have hunit : (2 ^ 1074 : ℝ) ≠ 0 := by positivity
  have hvalue := congrArg (Rat.cast : ℚ → ℝ) (value_mul_eq x)
  rw [Rat.cast_mul, Rat.cast_mul, Rat.cast_pow, Rat.cast_ofNat, Rat.cast_natCast,
    Rat.cast_natCast] at hvalue
  have h := Magnitude.nearest_ofUnits (n := x.unitsFraction.1) (unitsFraction_pos x)
  rwa [← hvalue, mul_div_cancel_right₀ _ hd, mul_div_cancel_right₀ _ hunit,
    ← toMagnitude_eq_ofUnits] at h

end CubeAssessment
