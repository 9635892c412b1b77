import CubeAssessment.Labeling.Interval
import CubeAssessment.Proofs.Numeric.ExtendedReal
import Mathlib.Data.Prod.Lex
import Mathlib.Order.CompletePartialOrder

/-! # Cuts

A *cut* parts the extended real line just before or just after a point. Each end of an interval is a
cut, whether the point there belongs to the interval or not, so an interval is what lies from its
lower cut up to its upper cut (`mem_points_iff`). Emptiness, containment, sorting and adjacency of
intervals, each written as a comparison of bounds with its own rule for ties, then all become plain
comparisons of cuts. -/

namespace CubeAssessment

/-- **A cut of the extended real line**: just before a point (`false`) or just after it (`true`). -/
abbrev Cut : Type := EReal ×ₗ Bool

namespace Cut

/-- The cut just before a point. -/
noncomputable def before (x : EReal) : Cut := toLex (x, false)

/-- The cut just after a point. -/
noncomputable def after (x : EReal) : Cut := toLex (x, true)

@[simp] theorem before_le_before {x y : EReal} : before x ≤ before y ↔ x ≤ y := by
  simp [before, Prod.Lex.toLex_le_toLex, le_iff_lt_or_eq (a := x)]

@[simp] theorem before_lt_before {x y : EReal} : before x < before y ↔ x < y := by
  simp [before, Prod.Lex.toLex_lt_toLex]

@[simp] theorem before_lt_after {x y : EReal} : before x < after y ↔ x ≤ y := by
  simp [before, after, Prod.Lex.toLex_lt_toLex, le_iff_lt_or_eq]

@[simp] theorem after_le_before {x y : EReal} : after x ≤ before y ↔ x < y := by
  simp [before, after, Prod.Lex.toLex_le_toLex]

/-- No cut lies before the one just before `-∞`. -/
theorem before_bot_le (c : Cut) : before ⊥ ≤ c := by
  obtain ⟨x, side⟩ := c
  refine Prod.Lex.toLex_le_toLex.mpr ?_
  rcases (bot_le : ⊥ ≤ x).lt_or_eq with hlt | heq
  · exact Or.inl hlt
  · exact Or.inr ⟨heq, Bool.false_le side⟩

/-- No cut lies after the one just after `∞`. -/
theorem le_after_top (c : Cut) : c ≤ after ⊤ := by
  obtain ⟨x, side⟩ := c
  refine Prod.Lex.toLex_le_toLex.mpr ?_
  rcases (le_top : x ≤ ⊤).lt_or_eq with hlt | heq
  · exact Or.inl hlt
  · exact Or.inr ⟨heq, Bool.le_true side⟩

/-- The cut just after a point is the next one after the cut just before it. -/
theorem after_le_of_before_lt {x : EReal} {c : Cut} (h : before x < c) : after x ≤ c := by
  obtain ⟨y, side⟩ := c
  refine Prod.Lex.toLex_le_toLex.mpr ?_
  rcases Prod.Lex.toLex_lt_toLex.mp h with hlt | ⟨heq, hside⟩
  · exact Or.inl hlt
  · exact Or.inr ⟨heq, (Bool.eq_true_of_true_le (Bool.lt_iff.mp hside).2.ge).ge⟩

/-- **There is a point between any two cuts**: the point both part at, or one strictly between the
two points. -/
theorem exists_before_between {c d : Cut} (h : c < d) : ∃ x, c ≤ before x ∧ before x < d := by
  obtain ⟨x, side⟩ := c
  obtain ⟨y, side'⟩ := d
  cases side with
  | false => exact ⟨x, le_refl (before x), h⟩
  | true =>
      -- a cut just after `x` leaves `x` behind, so the next cut parts at a larger point
      have hxy : x < y := by
        rcases Prod.Lex.toLex_lt_toLex.mp h with hlt | ⟨-, hside⟩
        · exact hlt
        · exact absurd hside (not_lt.mpr (Bool.le_true side'))
      obtain ⟨z, hxz, hzy⟩ := exists_between hxy
      exact ⟨z, after_le_before.mpr hxz, Prod.Lex.toLex_lt_toLex.mpr (Or.inl hzy)⟩

end Cut

namespace Interval

/-! ## The cuts and the points of an interval -/

/-- The cut at which an interval starts. -/
noncomputable def lowerCut (i : Interval) : Cut := toLex (i.lower.toEReal, !i.lowerInclusive)

/-- The cut at which an interval ends. -/
noncomputable def upperCut (i : Interval) : Cut := toLex (i.upper.toEReal, i.upperInclusive)

/-- **The points of an interval.** -/
def points (i : Interval) : Set EReal :=
  { x | (i.lower.toEReal < x ∨ x = i.lower.toEReal ∧ i.lowerInclusive = true) ∧
    (x < i.upper.toEReal ∨ x = i.upper.toEReal ∧ i.upperInclusive = true) }

/-- `i.lowerCut ≤ before x` when `x` is above the lower end, or is that end and belongs to `i`. -/
theorem lowerCut_le_before {i : Interval} {x : EReal} : i.lowerCut ≤ Cut.before x ↔
    i.lower.toEReal < x ∨ x = i.lower.toEReal ∧ i.lowerInclusive = true := by
  rw [lowerCut, Cut.before, Prod.Lex.toLex_le_toLex, eq_comm (a := x)]
  cases i.lowerInclusive <;> simp

/-- `before x < i.upperCut` when `x` is below the upper end, or is that end and belongs to `i`. -/
theorem before_lt_upperCut {i : Interval} {x : EReal} : Cut.before x < i.upperCut ↔
    x < i.upper.toEReal ∨ x = i.upper.toEReal ∧ i.upperInclusive = true := by
  rw [upperCut, Cut.before, Prod.Lex.toLex_lt_toLex]
  cases i.upperInclusive <;> simp

/-- **The points of an interval are those between its cuts.** -/
theorem mem_points_iff {i : Interval} {x : EReal} :
    x ∈ i.points ↔ i.lowerCut ≤ Cut.before x ∧ Cut.before x < i.upperCut := by
  rw [lowerCut_le_before, before_lt_upperCut]
  rfl

/-- An interval has points exactly when it starts before it ends. -/
theorem points_nonempty_iff (i : Interval) : i.points.Nonempty ↔ i.lowerCut < i.upperCut := by
  constructor
  · rintro ⟨x, hx⟩
    exact (mem_points_iff.mp hx).1.trans_lt (mem_points_iff.mp hx).2
  · intro h
    obtain ⟨x, hx⟩ := Cut.exists_before_between h
    exact ⟨x, mem_points_iff.mpr hx⟩

/-- The points of an interval lie below those of an interval that starts where it ends or later. -/
theorem lt_of_mem_points {a b : Interval} (h : a.upperCut ≤ b.lowerCut) {x y : EReal}
    (hx : x ∈ a.points) (hy : y ∈ b.points) : x < y :=
  Cut.before_lt_before.mp
    ((mem_points_iff.mp hx).2.trans_le (h.trans (mem_points_iff.mp hy).1))

/-- Intervals of which one ends before the other starts are disjoint. -/
theorem disjoint_points {a b : Interval} (h : a.upperCut ≤ b.lowerCut) :
    Disjoint a.points b.points :=
  Set.disjoint_left.mpr fun _ hxa hxb => (lt_of_mem_points h hxa hxb).false

/-- **Intervals are disjoint exactly when one ends before the other starts.** -/
theorem disjoint_points_iff {a b : Interval} (ha : a.lowerCut < a.upperCut)
    (hb : b.lowerCut < b.upperCut) :
    Disjoint a.points b.points ↔ a.upperCut ≤ b.lowerCut ∨ b.upperCut ≤ a.lowerCut := by
  constructor
  · intro h
    by_contra hcross
    obtain ⟨hab, hba⟩ := not_or.mp hcross
    -- both intervals are still open after the later start and before the earlier end
    have hlt : max a.lowerCut b.lowerCut < min a.upperCut b.upperCut :=
      max_lt (lt_min ha (not_le.mp hba)) (lt_min (not_le.mp hab) hb)
    obtain ⟨x, hlower, hupper⟩ := Cut.exists_before_between hlt
    obtain ⟨hal, hbl⟩ := max_le_iff.mp hlower
    obtain ⟨hau, hbu⟩ := lt_min_iff.mp hupper
    exact Set.disjoint_left.mp h (mem_points_iff.mpr ⟨hal, hau⟩) (mem_points_iff.mpr ⟨hbl, hbu⟩)
  · rintro (h | h)
    · exact disjoint_points h
    · exact (disjoint_points h).symm

/-! ## Proper intervals -/

/-- **A proper interval**: its ends are boundaries, and an infinite end belongs to it. -/
structure Proper (i : Interval) : Prop where
  /-- The lower end is a boundary. -/
  lower : i.lower.IsBoundary
  /-- The upper end is a boundary. -/
  upper : i.upper.IsBoundary
  /-- `-∞` belongs to an interval that starts there. -/
  lowerInclusive_of_bot : i.lower = .negInfinity → i.lowerInclusive = true
  /-- `∞` belongs to an interval that ends there. -/
  upperInclusive_of_top : i.upper = .infinity → i.upperInclusive = true

/-- A proper interval starts at the very bottom exactly when its lower end is `-∞`. -/
theorem Proper.lowerCut_eq_before_bot_iff {i : Interval} (hi : i.Proper) :
    i.lowerCut = Cut.before ⊥ ↔ i.lower = .negInfinity := by
  rw [lowerCut, Cut.before, toLex_inj, Prod.mk.injEq, Binary64.toEReal_eq_bot_iff]
  refine ⟨fun h => h.1, fun h => ⟨h, ?_⟩⟩
  rw [hi.lowerInclusive_of_bot h, Bool.not_true]

/-- A proper interval ends at the very top exactly when its upper end is `∞`. -/
theorem Proper.upperCut_eq_after_top_iff {i : Interval} (hi : i.Proper) :
    i.upperCut = Cut.after ⊤ ↔ i.upper = .infinity := by
  rw [upperCut, Cut.after, toLex_inj, Prod.mk.injEq, Binary64.toEReal_eq_top_iff]
  exact ⟨fun h => h.1, fun h => ⟨h, hi.upperInclusive_of_top h⟩⟩

/-- No proper interval ends just before `∞`. -/
theorem Proper.upperCut_ne_before_top {i : Interval} (hi : i.Proper) :
    i.upperCut ≠ Cut.before ⊤ := by
  intro h
  rw [upperCut, Cut.before, toLex_inj, Prod.mk.injEq, Binary64.toEReal_eq_top_iff] at h
  rw [hi.upperInclusive_of_top h.1] at h
  exact absurd h.2 (by decide)

/-- No proper interval starts just after `-∞`. -/
theorem Proper.lowerCut_ne_after_bot {i : Interval} (hi : i.Proper) :
    i.lowerCut ≠ Cut.after ⊥ := by
  intro h
  rw [lowerCut, Cut.after, toLex_inj, Prod.mk.injEq, Binary64.toEReal_eq_bot_iff] at h
  rw [hi.lowerInclusive_of_bot h.1] at h
  exact absurd h.2 (by decide)

/-- An interval with points whose lower end is `∞` starts just before it. -/
theorem lowerCut_eq_before_top {i : Interval} (h : i.lowerCut < i.upperCut)
    (htop : i.lower = .infinity) : i.lowerCut = Cut.before ⊤ := by
  rw [lowerCut, htop, Binary64.toEReal_infinity] at h ⊢
  cases hside : i.lowerInclusive with
  | true => rfl
  | false =>
      -- starting just after `∞` it would leave nothing to end at
      rw [hside] at h
      exact absurd (Cut.le_after_top i.upperCut) (not_le.mpr h)

/-- An interval with points whose upper end is `-∞` ends just after it. -/
theorem upperCut_eq_after_bot {i : Interval} (h : i.lowerCut < i.upperCut)
    (hbot : i.upper = .negInfinity) : i.upperCut = Cut.after ⊥ := by
  rw [upperCut, hbot, Binary64.toEReal_negInfinity] at h ⊢
  cases hside : i.upperInclusive with
  | true => rfl
  | false =>
      rw [hside] at h
      exact absurd (Cut.before_bot_le i.lowerCut) (not_le.mpr h)

/-! ## Comparisons of bounds as comparisons of cuts -/

/-- Two bounds compared in the total order, read as extended real numbers. -/
theorem totalCompare_cases {x y : Binary64} (hx : x.IsBoundary) (hy : y.IsBoundary) :
    x.totalCompare y = .lt ∧ x.toEReal < y.toEReal ∨
      x.totalCompare y = .eq ∧ x.toEReal = y.toEReal ∨
        x.totalCompare y = .gt ∧ y.toEReal < x.toEReal := by
  rw [Binary64.totalCompare, compare_lt_iff_lt, compare_eq_iff_eq, compare_gt_iff_gt,
    hx.rank_lt_rank_iff hy, hx.rank_eq_rank_iff hy, hy.rank_lt_rank_iff hx]
  rcases lt_trichotomy x.toEReal y.toEReal with h | h | h
  · exact Or.inl ⟨h, h⟩
  · exact Or.inr (Or.inl ⟨h, h⟩)
  · exact Or.inr (Or.inr ⟨h, h⟩)

/-- An interval starts before it ends when its bounds ascend, or coincide and both belong to it. -/
theorem lowerCut_lt_upperCut_iff (i : Interval) : i.lowerCut < i.upperCut ↔
    i.lower.toEReal < i.upper.toEReal ∨
      i.lower.toEReal = i.upper.toEReal ∧ i.lowerInclusive = true ∧ i.upperInclusive = true := by
  rw [lowerCut, upperCut, Prod.Lex.toLex_lt_toLex]
  cases i.lowerInclusive <;> cases i.upperInclusive <;> simp

/-- **An interval is refused as empty** unless it starts before it ends and is not one infinity. -/
theorem isEmpty_eq_false_iff {i : Interval} (hi : i.Proper) : i.isEmpty = false ↔
    i.lowerCut < i.upperCut ∧ i.lower ≠ .infinity ∧ i.upper ≠ .negInfinity := by
  rw [lowerCut_lt_upperCut_iff, isEmpty, ne_eq, ne_eq, ← Binary64.toEReal_eq_top_iff,
    ← Binary64.toEReal_eq_bot_iff]
  rcases totalCompare_cases hi.lower hi.upper with ⟨hc, h⟩ | ⟨hc, h⟩ | ⟨hc, h⟩
  · rw [hc]
    exact iff_of_true rfl ⟨Or.inl h, h.ne_top, h.ne_bot⟩
  · rw [hc]
    simp [h, Binary64.isFinite_iff hi.lower.ne_nan, ← Binary64.toEReal_eq_top_iff,
      ← Binary64.toEReal_eq_bot_iff]
    tauto
  · rw [hc]
    simp [h.not_gt, h.ne']

/-- **Containment of a number is a comparison of cuts.** -/
theorem contains_iff {i : Interval} (hi : i.Proper) {v : Binary64} (hv : v ≠ .nan) :
    i.contains v = true ↔
      i.lowerCut ≤ Cut.before v.toEReal ∧ Cut.before v.toEReal < i.upperCut := by
  rw [lowerCut_le_before, before_lt_upperCut, contains, Bool.and_eq_true, Bool.or_eq_true,
    Bool.or_eq_true, Bool.and_eq_true, Bool.and_eq_true, Binary64.below_iff hi.lower.ne_nan hv,
    Binary64.below_iff hv hi.upper.ne_nan, Binary64.equals_iff hv hi.lower.ne_nan,
    Binary64.equals_iff hv hi.upper.ne_nan]

/-- **An interval contains a number exactly when its value is one of the points.** -/
theorem contains_iff_mem_points {i : Interval} (hi : i.Proper) {v : Binary64} (hv : v ≠ .nan) :
    i.contains v = true ↔ v.toEReal ∈ i.points := by
  rw [contains_iff hi hv, mem_points_iff]

/-- **An interval ends before a number exactly when its upper cut does.** -/
theorem endsBefore_iff {i : Interval} (hi : i.Proper) {v : Binary64} (hv : v ≠ .nan) :
    i.endsBefore v = true ↔ i.upperCut ≤ Cut.before v.toEReal := by
  rw [endsBefore, Bool.or_eq_true, Bool.and_eq_true, Binary64.below_iff hi.upper.ne_nan hv,
    Binary64.equals_iff hi.upper.ne_nan hv, upperCut, Cut.before, Prod.Lex.toLex_le_toLex]
  cases i.upperInclusive <;> simp

/-- `a.startsFirst b` in terms of the ranks of the lower ends. -/
theorem startsFirst_iff_rank (a b : Interval) : a.startsFirst b = true ↔
    a.lower.rank < b.lower.rank ∨
      a.lower.rank = b.lower.rank ∧ (a.lowerInclusive = true ∨ b.lowerInclusive = false) := by
  rw [startsFirst, Binary64.totalCompare]
  rcases lt_trichotomy a.lower.rank b.lower.rank with h | h | h
  · rw [compare_lt_iff_lt.mpr h]
    exact iff_of_true rfl (Or.inl h)
  · rw [compare_eq_iff_eq.mpr h]
    simp [h]
  · rw [compare_gt_iff_gt.mpr h]
    simp [h.not_gt, h.ne']

/-- What may stand before an interval may stand before all that this one may stand before. -/
theorem startsFirst_trans (a b c : Interval) (hab : a.startsFirst b) (hbc : b.startsFirst c) :
    a.startsFirst c := by
  rw [startsFirst_iff_rank] at *
  grind

/-- Of two intervals one may stand before the other. -/
theorem startsFirst_total (a b : Interval) : a.startsFirst b || b.startsFirst a := by
  rw [Bool.or_eq_true, startsFirst_iff_rank, startsFirst_iff_rank]
  grind

/-- **An interval may stand before another exactly when its lower cut does.** -/
theorem startsFirst_iff {a b : Interval} (ha : a.Proper) (hb : b.Proper) :
    a.startsFirst b = true ↔ a.lowerCut ≤ b.lowerCut := by
  rw [startsFirst_iff_rank, ha.lower.rank_lt_rank_iff hb.lower, ha.lower.rank_eq_rank_iff hb.lower,
    lowerCut, lowerCut, Prod.Lex.toLex_le_toLex]
  cases a.lowerInclusive <;> cases b.lowerInclusive <;> simp

/-- **Neighbours fit exactly when one starts at the cut where the other ends.** -/
theorem seamDefect_eq_none_iff {a b : Interval} (ha : a.Proper) (hb : b.Proper) :
    a.seamDefect b = none ↔ a.upperCut = b.lowerCut := by
  rw [seamDefect, upperCut, lowerCut, toLex_inj, Prod.mk.injEq]
  rcases totalCompare_cases ha.upper hb.lower with ⟨hc, h⟩ | ⟨hc, h⟩ | ⟨hc, h⟩
  · rw [hc]
    simp [h.ne]
  · rw [hc]
    cases a.upperInclusive <;> cases b.lowerInclusive <;> simp [h]
  · rw [hc]
    simp [h.ne']

end Interval

end CubeAssessment
