import CubeAssessment.Proofs.Labeling.Reading
import CubeAssessment.Proofs.Numeric.Grammar
import CubeAssessment.Proofs.Numeric.Overflow

/-! # The bounds of rules

Which texts are bounds and what they stand for (`LabelingRule.SpellsBound`): three texts for the
infinities, and number literals for real numbers, without the sign of a zero. So a bound is neither
NaN nor negative zero, a literal that overflows is no bound, a negative one that underflows is zero
(`LabelingRule.readBound_of_decimal`), and on bounds the total comparison is the numeric one
(`Binary64.IsBoundary.totalCompare_iff`). -/

namespace CubeAssessment

namespace Binary64

/-! ## Numbers without negative zero -/

/-- Dropping the sign of zero leaves a number as finite as it was. -/
theorem isFinite_withoutNegativeZero (x : Binary64) :
    x.withoutNegativeZero.isFinite = x.isFinite := by
  cases x with
  | nan => rfl
  | signed negative m =>
    cases negative with
    | false => rfl
    | true =>
      rw [withoutNegativeZero]
      split
      · rfl
      · rfl

/-- Zero loses its sign. -/
theorem withoutNegativeZero_zero (negative : Bool) :
    (signed negative Magnitude.zero).withoutNegativeZero = zero := by
  cases negative <;> rfl

/-- Other numbers keep their sign. -/
theorem withoutNegativeZero_of_ne {negative : Bool} {m : Magnitude} (h : m ≠ Magnitude.zero) :
    (signed negative m).withoutNegativeZero = signed negative m := by
  cases negative with
  | false => rfl
  | true => exact if_neg fun hcode => h (Magnitude.eq_zero_of_code hcode)

/-- **On boundaries the total comparison is the numeric one**: `<`, `=` and `>` say the same in both
orders. -/
theorem IsBoundary.totalCompare_iff {x y : Binary64} (hx : x.IsBoundary) (hy : y.IsBoundary) :
    (x.totalCompare y = .lt ↔ x.below y = true) ∧ (x.totalCompare y = .eq ↔ x.equals y = true) ∧
      (x.totalCompare y = .gt ↔ y.below x = true) := by
  rw [totalCompare, compare_lt_iff_lt, compare_eq_iff_eq, compare_gt_iff_gt,
    below_iff hx.ne_nan hy.ne_nan, equals_iff hx.ne_nan hy.ne_nan, below_iff hy.ne_nan hx.ne_nan]
  exact ⟨hx.rank_lt_rank_iff hy, hx.rank_eq_rank_iff hy, hy.rank_lt_rank_iff hx⟩

end Binary64

namespace LabelingRule

/-! ## The texts of bounds -/

/-- **The texts of a bound.** White space around them does not count. -/
inductive SpellsBound (text : String) : Binary64 → Prop where
  /-- The lower infinity has one spelling. -/
  | negInfinity : Text.trim text = "-inf" → SpellsBound text .negInfinity
  /-- The upper infinity has two. -/
  | infinity : Text.trim text = "inf" ∨ Text.trim text = "+inf" → SpellsBound text .infinity
  /-- A literal for a real number; the sign of a zero does not count. -/
  | number {x : Binary64} : Literal.Spells (Text.trim text).toList x → x.isFinite = true →
      SpellsBound text x.withoutNegativeZero

variable {text : String} {v : Binary64}

/-- The spellings of the infinities, told apart. -/
theorem not_mem_infinities_iff {word : String} : word ∉ ["-inf", "inf", "+inf"] ↔
    word ≠ "-inf" ∧ ¬ (word = "inf" ∨ word = "+inf") := by
  simp only [List.mem_cons, List.not_mem_nil, or_false, not_or, ne_eq]

/-- The spellings of the infinities are no decimals. -/
theorem not_infinity_of_decimal {sign body : List Char} {negative : Bool} {x : Decimal}
    (hsign : Literal.Sign sign negative) (hbody : Literal.SpellsDecimal body x)
    (htext : (Text.trim text).toList = sign ++ body) :
    Text.trim text ∉ ["-inf", "inf", "+inf"] := by
  have hnone : ∀ word ∈ ["-inf", "inf", "+inf"],
      Literal.readDecimal (Literal.splitSign word.toList).2 = none := by decide
  have hread := Literal.readDecimal_eq_some_iff.mpr hbody
  intro hmem
  have hword := hnone _ hmem
  rw [htext, hsign.splitSign_append hbody.unsigned, hread] at hword
  cases hword

/-- The spellings of the infinities are no literals of a real number. -/
theorem not_infinity_of_spells {x : Binary64} (hspells : Literal.Spells (Text.trim text).toList x)
    (hfinite : x.isFinite = true) : Text.trim text ∉ ["-inf", "inf", "+inf"] := by
  generalize htext : (Text.trim text).toList = cs at hspells
  cases hspells with
  | decimal hsign hbody => exact not_infinity_of_decimal hsign hbody htext
  | infinity _ _ => cases hfinite
  | nan _ _ => cases hfinite

/-- **A text is a bound exactly when it spells it.** -/
theorem boundValue_eq_some_iff : boundValue text = some v ↔ SpellsBound text v := by
  unfold boundValue
  dsimp only
  constructor
  · intro h
    split at h
    · next hneg =>
      cases h
      exact .negInfinity hneg
    · split at h
      · next hpos =>
        cases h
        exact .infinity hpos
      · obtain ⟨x, hx, rfl⟩ := Option.map_eq_some_iff.mp h
        obtain ⟨hspells, hfinite⟩ := Literal.readFinite_eq_some_iff.mp hx
        exact .number hspells hfinite
  · intro h
    cases h with
    | negInfinity hneg => rw [if_pos hneg]
    | infinity hpos =>
      have hneg : Text.trim text ≠ "-inf" := by
        intro hneg
        rw [hneg] at hpos
        exact absurd hpos (by decide)
      rw [if_neg hneg, if_pos hpos]
    | number hspells hfinite =>
      obtain ⟨hneg, hpos⟩ := not_mem_infinities_iff.mp (not_infinity_of_spells hspells hfinite)
      rw [if_neg hneg, if_neg hpos, Literal.readFinite_eq_some_iff.mpr ⟨hspells, hfinite⟩,
        Option.map_some]

/-- **A bound is infinite by its spelling only.** -/
theorem SpellsBound.infinite_iff (h : SpellsBound text v) :
    (v = .negInfinity ↔ Text.trim text = "-inf") ∧
      (v = .infinity ↔ Text.trim text = "inf" ∨ Text.trim text = "+inf") := by
  cases h with
  | negInfinity hneg =>
    rw [hneg]
    decide
  | infinity hpos =>
    rcases hpos with hpos | hpos
    · rw [hpos]
      decide
    · rw [hpos]
      decide
  | number hspells hfinite =>
    obtain ⟨hneg, hpos⟩ := not_mem_infinities_iff.mp (not_infinity_of_spells hspells hfinite)
    rw [← Binary64.isFinite_withoutNegativeZero] at hfinite
    refine ⟨iff_of_false (fun heq => ?_) hneg, iff_of_false (fun heq => ?_) hpos⟩
    · rw [heq] at hfinite
      exact absurd hfinite (by decide)
    · rw [heq] at hfinite
      exact absurd hfinite (by decide)

/-! ## Reading bounds -/

/-- **Read the bound of the rule at a position**, or quote it as given. -/
def readBound (rule : Nat) (text : String) : Except LabelingError Binary64 :=
  Interval.orFail (.invalidBound rule text) (boundValue text)

/-- Both bounds of a rule are read in this way. -/
theorem ofRule_eq_readBound (rule : Nat) (r : LabelingRule) : Interval.ofRule rule r = (do
    let lowerInclusive ←
      Interval.orFail (.invalidBracket rule r.left) (leftInclusive r.left)
    let lower ← readBound rule r.lower
    let upper ← readBound rule r.upper
    let upperInclusive ←
      Interval.orFail (.invalidBracket rule r.right) (rightInclusive r.right)
    let interval : Interval :=
      ⟨lower, upper, lowerInclusive || lower.equals .negInfinity,
        upperInclusive || upper.equals .infinity, r.label, rule⟩
    if interval.isEmpty then .error (.invalidPartition rule .emptyInterval) else .ok interval) :=
  rfl

variable {rule : Nat}

/-- **The ends of a rule's interval are its bounds**, as they are read. -/
theorem readBound_of_ofRule {r : LabelingRule} {i : Interval} (h : Interval.ofRule rule r = .ok i) :
    readBound rule r.lower = .ok i.lower ∧ readBound rule r.upper = .ok i.upper := by
  rw [ofRule_eq_readBound] at h
  simp only [bind_eq_ok_iff] at h
  obtain ⟨_, _, lower, hlower, upper, hupper, _, _, hinterval⟩ := h
  split at hinterval
  · cases hinterval
  · cases hinterval
    exact ⟨hlower, hupper⟩

/-- A bound is read as what it spells. -/
theorem readBound_eq_ok_iff : readBound rule text = .ok v ↔ SpellsBound text v := by
  rw [readBound, Interval.orFail_eq_ok_iff, boundValue_eq_some_iff]

/-- **A text that spells no bound is refused as given.** -/
theorem readBound_of_not_spells (h : ∀ v, ¬ SpellsBound text v) :
    readBound rule text = .error (.invalidBound rule text) := by
  have hnone : boundValue text = none :=
    Option.eq_none_iff_forall_ne_some.mpr fun v hv => h v (boundValue_eq_some_iff.mp hv)
  rw [readBound, hnone, Interval.orFail]

/-- **A literal that is not a real number is refused**, whether it is a word or overflows, unless it
is one of the spellings of an infinity. -/
theorem readBound_of_not_finite {x : Binary64} (hspells : Literal.Spells (Text.trim text).toList x)
    (hinfinite : x.isFinite = false) (hother : Text.trim text ∉ ["-inf", "inf", "+inf"]) :
    readBound rule text = .error (.invalidBound rule text) := by
  obtain ⟨hnotNeg, hnotPos⟩ := not_mem_infinities_iff.mp hother
  apply readBound_of_not_spells
  intro v hv
  cases hv with
  | negInfinity hneg => exact hnotNeg hneg
  | infinity hpos => exact hnotPos hpos
  | number hspells' hfinite =>
    -- a text spells one double
    have hread := Literal.read_eq_some_iff.mpr hspells
    rw [Literal.read_eq_some_iff.mpr hspells', Option.some.injEq] at hread
    rw [hread, hinfinite] at hfinite
    cases hfinite

/-- **What a decimal is read as**: zero without a sign when it underflows, nothing when it
overflows, and otherwise the number it rounds to. -/
theorem readBound_of_decimal {sign body : List Char} {negative : Bool} {x : Decimal}
    (hsign : Literal.Sign sign negative) (hbody : Literal.SpellsDecimal body x)
    (htext : (Text.trim text).toList = sign ++ body) :
    readBound rule text =
      if x.value ≤ Decimal.underflowBound then .ok .zero
      else if x.value < Decimal.overflowBound then .ok (.signed negative x.toMagnitude)
      else .error (.invalidBound rule text) := by
  have hspells : Literal.Spells (Text.trim text).toList (.signed negative x.toMagnitude) := by
    rw [htext]
    exact .decimal hsign hbody
  by_cases hsmall : x.value ≤ Decimal.underflowBound
  · have hzero := x.toMagnitude_eq_zero_iff.mpr hsmall
    rw [if_pos hsmall, readBound_eq_ok_iff, ← Binary64.withoutNegativeZero_zero negative]
    rw [hzero] at hspells
    exact .number hspells rfl
  · rw [if_neg hsmall]
    have hzero := x.toMagnitude_eq_zero_iff.not.mpr hsmall
    by_cases hlarge : x.value < Decimal.overflowBound
    · rw [if_pos hlarge, readBound_eq_ok_iff, ← Binary64.withoutNegativeZero_of_ne hzero]
      exact .number hspells (x.isFinite_toMagnitude_iff.mpr hlarge)
    · rw [if_neg hlarge]
      have hinfinite := Bool.eq_false_of_not_eq_true (x.isFinite_toMagnitude_iff.not.mpr hlarge)
      exact readBound_of_not_finite hspells hinfinite (not_infinity_of_decimal hsign hbody htext)

/-- **What bounds are.** A bound is a number other than negative zero, infinite exactly when it is
written `-inf`, `inf` or `+inf`. Every other text for a value that is no real number is refused as
it was given, and a decimal counts as its value says: zero has no sign, also when it comes from
underflow, and there is no overflow. So the total comparison of any two bounds is the numeric one,
and the ends of intervals are such bounds. -/
theorem readBound_isBoundary_and_totalCompare :
    (∀ rule text v, readBound rule text = .ok v ↔ SpellsBound text v) ∧
    (∀ rule text e, readBound rule text = .error e → e = .invalidBound rule text) ∧
    (∀ rule text v, readBound rule text = .ok v →
      v ≠ .nan ∧ v ≠ .signed true .zero ∧
      (v = .negInfinity ↔ Text.trim text = "-inf") ∧
      (v = .infinity ↔ Text.trim text = "inf" ∨ Text.trim text = "+inf")) ∧
    (∀ rule text x, Literal.Spells (Text.trim text).toList x → x.isFinite = false →
      Text.trim text ∉ ["-inf", "inf", "+inf"] →
      readBound rule text = .error (.invalidBound rule text)) ∧
    (∀ rule text sign negative body x, Literal.Sign sign negative →
      Literal.SpellsDecimal body x → (Text.trim text).toList = sign ++ body →
      readBound rule text =
        if x.value ≤ Decimal.underflowBound then .ok .zero
        else if x.value < Decimal.overflowBound then .ok (.signed negative x.toMagnitude)
        else .error (.invalidBound rule text)) ∧
    (∀ rule rule' text text' v w, readBound rule text = .ok v → readBound rule' text' = .ok w →
      (v.totalCompare w = .lt ↔ v.below w = true) ∧
      (v.totalCompare w = .eq ↔ v.equals w = true) ∧
      (v.totalCompare w = .gt ↔ w.below v = true)) ∧
    ∀ rule r i, Interval.ofRule rule r = .ok i →
      readBound rule r.lower = .ok i.lower ∧ readBound rule r.upper = .ok i.upper := by
  have hboundary : ∀ {rule text v}, readBound rule text = .ok v → v.IsBoundary :=
    fun h => isBoundary_of_boundValue (Interval.orFail_eq_ok_iff.mp h)
  refine ⟨fun rule text v => readBound_eq_ok_iff, fun rule text e he => ?_,
    fun rule text v hv => ?_, fun rule text x => readBound_of_not_finite,
    fun rule text sign negative body x => readBound_of_decimal,
    fun rule rule' text text' v w hv hw => (hboundary hv).totalCompare_iff (hboundary hw),
    fun rule r i => readBound_of_ofRule⟩
  · cases hvalue : boundValue text with
    | none =>
      rw [readBound, hvalue] at he
      cases he
      rfl
    | some v =>
      rw [readBound, hvalue] at he
      cases he
  · exact ⟨(hboundary hv).ne_nan, (hboundary hv).ne_negZero,
      (readBound_eq_ok_iff.mp hv).infinite_iff⟩

/-- Bounds at the limits: a literal that overflows and a word other than the three are refused as
given, and a negative literal that underflows is zero, below infinity in both orders. -/
theorem readBound_at_limits :
    readBound 3 " 1e400" = .error (.invalidBound 3 " 1e400") ∧
    readBound 1 "-Infinity" = .error (.invalidBound 1 "-Infinity") ∧
    readBound 0 "-1e-400" = .ok .zero ∧
    (Binary64.zero.totalCompare .infinity = .lt ↔ Binary64.zero.below .infinity = true) := by
  obtain ⟨hspells, -, -, hrefused, hdecimal, horder, -⟩ := readBound_isBoundary_and_totalCompare
  have hlarge : Decimal.overflowBound ≤ (⟨1, 400⟩ : Decimal).value := by
    rw [← not_lt, ← Decimal.isFinite_toMagnitude_iff]
    decide
  have hsmall : (⟨1, -400⟩ : Decimal).value ≤ Decimal.underflowBound := by
    rw [← Decimal.toMagnitude_eq_zero_iff]
    decide
  have hzero : readBound 0 "-1e-400" = .ok .zero := by
    have hread := hdecimal 0 "-1e-400" ['-'] true ['1', 'e', '-', '4', '0', '0'] ⟨1, -400⟩ .minus
      (Literal.readDecimal_eq_some_iff.mp (by decide)) (by decide)
    rwa [if_pos hsmall] at hread
  have hinfinity : readBound 0 "inf" = .ok .infinity :=
    (hspells 0 "inf" .infinity).mpr (.infinity (by decide))
  refine ⟨?_, ?_, hzero, (horder _ _ _ _ _ _ hzero hinfinity).1⟩
  · have hread := hdecimal 3 " 1e400" [] false ['1', 'e', '4', '0', '0'] ⟨1, 400⟩ .none
      (Literal.readDecimal_eq_some_iff.mp (by decide)) (by decide)
    rwa [if_neg (Decimal.underflowBound_lt_overflowBound.trans_le hlarge).not_ge,
      if_neg hlarge.not_gt] at hread
  · exact hrefused 1 "-Infinity" (.signed true .infinity)
      (Literal.read_eq_some_iff.mp (by decide)) (by decide) (by decide)

end LabelingRule

end CubeAssessment
