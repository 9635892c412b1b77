import CubeAssessment.Proofs.Collections.Faults
import CubeAssessment.Proofs.Labeling.Cover
import Mathlib.Data.List.Nodup

/-! # What a reported defect says of the rules

A rule goes through five checks in a fixed order (`LabelingRule.checks`), and the first rule that
fails one of them is blamed. The defects of a whole list are searched for among neighbours only,
after sorting, yet they are true of the list as it was given (`PartitionDefect.Holds`). The reason
is that in front of the first bad seam the intervals are separate: what a gap misses lies behind all
of these and in front of all that follow, and an overlap is shared by the two at the seam. The main
result is `compile_error_holds`. -/

namespace CubeAssessment

namespace LabelingRule

/-- **The checks of the rule at a position**, in order, each with the error it finds: the left
bracket, the lower bound, the upper bound and the right bracket can be read, and some real number is
among the points. -/
def checks (rule : Nat) (r : LabelingRule) : List (Set LabelingError) :=
  [{ e | leftInclusive r.left = none ∧ e = .invalidBracket rule r.left },
    { e | boundValue r.lower = none ∧ e = .invalidBound rule r.lower },
    { e | boundValue r.upper = none ∧ e = .invalidBound rule r.upper },
    { e | rightInclusive r.right = none ∧ e = .invalidBracket rule r.right },
    { e | (∃ points, r.Denotes points ∧ ∀ x : ℝ, (x : EReal) ∉ points) ∧
      e = .invalidPartition rule .emptyInterval }]

end LabelingRule

namespace LabelPartition

/-- The rule at a position covers a point. -/
def Covers (rules : List LabelingRule) (k : Nat) (x : EReal) : Prop :=
  ∃ r points, rules[k]? = some r ∧ r.Denotes points ∧ x ∈ points

/-- The bound that a field of the rule at a position states. -/
def Bound (field : LabelingRule → String) (rules : List LabelingRule) (k : Nat) (x : EReal) :
    Prop :=
  ∃ r value, rules[k]? = some r ∧ LabelingRule.boundValue (field r) = some value ∧
    x = value.toEReal

end LabelPartition

open LabelPartition in
/-- **What a defect reported for the rule at a position says of a list of rules.** -/
def PartitionDefect.Holds (rules : List LabelingRule) (k : Nat) : PartitionDefect → Prop
  | empty => rules = []
  | emptyInterval => ∃ r points, rules[k]? = some r ∧ r.Denotes points ∧
      ∀ x : ℝ, (x : EReal) ∉ points
  | overlap => ∃ x, Covers rules k x ∧ ∃ j, j ≠ k ∧ Covers rules j x
  | gap => ∃ x : ℝ, (∃ lower, Bound LabelingRule.lower rules k lower ∧ x ≤ lower) ∧
      (∀ j, ¬ Covers rules j x) ∧
      ∃ j, j ≠ k ∧ (∃ y, Covers rules j y) ∧ ∀ y, Covers rules j y → y < x
  | notTotal =>
      (∀ j, ¬ Covers rules j ⊥) ∧ (∃ lower, Bound LabelingRule.lower rules k lower ∧
        ∀ j other, Bound LabelingRule.lower rules j other → lower ≤ other) ∨
      (∃ j, Covers rules j ⊥) ∧ (∀ j, ¬ Covers rules j ⊤) ∧
        ∃ upper, Bound LabelingRule.upper rules k upper ∧
          ∀ j other, Bound LabelingRule.upper rules j other → other ≤ upper

namespace Interval

/-! ## One rule -/

/-- A required reading is checked for being there. -/
theorem obeys_orFail {α : Type} (error : LabelingError) (reading : Option α) :
    Obeys [{ e | reading = none ∧ e = error }] (fun a => reading = some a)
      (orFail error reading) := by
  refine Obeys.single (fun e => ?_) fun a => orFail_eq_ok_iff.mp
  cases reading with
  | none => simp [orFail, eq_comm]
  | some a => simp [orFail]

/-- **An interval is refused as empty when no real number lies in it.** -/
theorem isEmpty_iff_forall_real {i : Interval} (hi : i.Proper) :
    i.isEmpty = true ↔ ∀ x : ℝ, (x : EReal) ∉ i.points := by
  rw [← not_iff_not, Bool.not_eq_true, isEmpty_eq_false_iff hi, not_forall]
  simp only [not_not]
  constructor
  · rintro ⟨hlt, htop, hbot⟩
    rcases (lowerCut_lt_upperCut_iff i).mp hlt with hbounds | ⟨hbounds, hl, hu⟩
    · obtain ⟨x, hlower, hupper⟩ := EReal.lt_iff_exists_real_btwn.mp hbounds
      exact ⟨x, Or.inl hlower, Or.inl hupper⟩
    · -- one point, which is neither infinity
      have hlower : i.lower.toEReal ≠ ⊤ := fun h => htop ((Binary64.toEReal_eq_top_iff _).mp h)
      have hupper : i.lower.toEReal ≠ ⊥ := fun h =>
        hbot ((Binary64.toEReal_eq_bot_iff _).mp (hbounds.symm.trans h))
      have hreal := EReal.coe_toReal hlower hupper
      exact ⟨i.lower.toEReal.toReal, Or.inr ⟨hreal, hl⟩, Or.inr ⟨hreal.trans hbounds, hu⟩⟩
  · rintro ⟨x, hx⟩
    refine ⟨(points_nonempty_iff i).mp ⟨x, hx⟩, fun htop => ?_, fun hbot => ?_⟩
    · have hle : i.lower.toEReal ≤ x := hx.1.elim le_of_lt fun h => h.1.ge
      rw [htop, Binary64.toEReal_infinity, top_le_iff] at hle
      exact EReal.coe_ne_top x hle
    · have hle : (x : EReal) ≤ i.upper.toEReal := hx.2.elim le_of_lt fun h => h.1.le
      rw [hbot, Binary64.toEReal_negInfinity, le_bot_iff] at hle
      exact EReal.coe_ne_bot x hle

/-- The interval of a rule is empty when the rule denotes no real number. -/
theorem Carries.isEmpty_iff {i : Interval} {r : LabelingRule} (h : i.Carries r) :
    i.isEmpty = true ↔ ∃ points, r.Denotes points ∧ ∀ x : ℝ, (x : EReal) ∉ points := by
  rw [isEmpty_iff_forall_real h.proper]
  refine ⟨fun hx => ⟨i.points, h.denotes, hx⟩, ?_⟩
  rintro ⟨points, hpoints, hx⟩
  cases hpoints.unique h.denotes
  exact hx

/-- **Reading a rule goes through its checks.** -/
theorem obeys_ofRule (rule : Nat) (r : LabelingRule) :
    Obeys (r.checks rule) (fun i => i.Carries r ∧ i.rule = rule) (ofRule rule r) := by
  refine (obeys_orFail _ _).bind fun left hleft => (obeys_orFail _ _).bind fun lower hlower =>
    (obeys_orFail _ _).bind fun upper hupper => (obeys_orFail _ _).bind fun right hright => ?_
  have hcarries := carries_of_readings hleft hlower hupper hright rule
  dsimp only
  split
  · next hempty =>
    refine Obeys.fail (Set.ext fun e => ?_)
    exact and_iff_right (hcarries.isEmpty_iff.mp hempty)
  · next hpoints =>
    refine Obeys.skip (Set.eq_empty_of_forall_notMem fun e he => ?_) (Obeys.ok ⟨hcarries, rfl⟩)
    exact hpoints (hcarries.isEmpty_iff.mpr he.1)

/-! ## One seam -/

/-- **A bad seam overlaps or leaves a gap**, as the later interval starts before or after the
earlier one ends. -/
theorem seamDefect_eq_some_iff {a b : Interval} (ha : a.Proper) (hb : b.Proper)
    {defect : PartitionDefect} : a.seamDefect b = some defect ↔
      defect = .overlap ∧ b.lowerCut < a.upperCut ∨ defect = .gap ∧ a.upperCut < b.lowerCut := by
  rw [seamDefect, upperCut, lowerCut, Prod.Lex.toLex_lt_toLex, Prod.Lex.toLex_lt_toLex]
  rcases totalCompare_cases ha.upper hb.lower with ⟨hc, h⟩ | ⟨hc, h⟩ | ⟨hc, h⟩
  · rw [hc]
    simp [h, h.ne', h.not_gt, eq_comm]
  · rw [hc]
    cases a.upperInclusive <;> cases b.lowerInclusive <;> simp [h, eq_comm]
  · rw [hc]
    simp [h, h.ne', h.not_gt, eq_comm]

/-- Two intervals of which the second starts inside the first share a point. -/
theorem exists_mem_points_both {a b : Interval} (hstart : a.lowerCut ≤ b.lowerCut)
    (hb : b.lowerCut < b.upperCut) (h : b.lowerCut < a.upperCut) :
    ∃ x, x ∈ a.points ∧ x ∈ b.points := by
  obtain ⟨x, hlower, hupper⟩ := Cut.exists_before_between (lt_min h hb)
  obtain ⟨hau, hbu⟩ := lt_min_iff.mp hupper
  exact ⟨x, mem_points_iff.mpr ⟨hstart.trans hlower, hau⟩, mem_points_iff.mpr ⟨hlower, hbu⟩⟩

/-- **Between two intervals that leave a gap lies a real number**: neither infinity has an interval
on both sides. -/
theorem exists_real_between {a b : Interval} (ha : a.lowerCut < a.upperCut)
    (hb : b.lowerCut < b.upperCut) (h : a.upperCut < b.lowerCut) :
    ∃ x : ℝ, a.upperCut ≤ Cut.before x ∧ Cut.before (x : EReal) < b.lowerCut := by
  obtain ⟨x, hax, hxb⟩ := Cut.exists_before_between h
  have htop : x ≠ ⊤ := by
    rintro rfl
    -- `b` would have to start behind `∞` and still have points
    exact absurd (hb.trans_le (Cut.le_after_top _)) (not_lt.mpr (Cut.after_le_of_before_lt hxb))
  have hbot : x ≠ ⊥ := by
    rintro rfl
    -- `a` would have to end in front of `-∞`
    exact absurd (ha.trans_le hax) (not_lt.mpr (Cut.before_bot_le _))
  refine ⟨x.toReal, ?_⟩
  rw [EReal.coe_toReal htop hbot]
  exact ⟨hax, hxb⟩

end Interval

namespace LabelPartition

/-! ## Sorted intervals -/

/-- **The first bad seam** has none in front of it. -/
theorem exists_of_firstSeamDefect {is : List Interval} {e : LabelingError}
    (h : firstSeamDefect is = some e) : ∃ front a b back defect, is = front ++ a :: b :: back ∧
      firstSeamDefect (front ++ [a]) = none ∧ a.seamDefect b = some defect ∧
        e = .invalidPartition b.rule defect := by
  induction is with
  | nil => cases h
  | cons current rest ih =>
      cases rest with
      | nil => cases h
      | cons next rest =>
          rw [firstSeamDefect] at h
          split at h
          · next defect hdefect =>
            cases h
            exact ⟨[], current, next, rest, defect, rfl, rfl, hdefect, rfl⟩
          · next hnone =>
            obtain ⟨front, a, b, back, defect, hsplit, hfront, hseam, rfl⟩ := ih h
            refine ⟨current :: front, a, b, back, defect, by rw [hsplit, List.cons_append], ?_,
              hseam, rfl⟩
            -- the front starts with `next`, to which the seam is good
            cases front with
            | nil =>
                cases hsplit
                simp [firstSeamDefect, hnone]
            | cons first front =>
                cases hsplit
                rw [List.cons_append, List.cons_append, firstSeamDefect, hnone]
                exact hfront

/-- Intervals without a bad seam are separate. -/
theorem pairwise_of_firstSeamDefect {is : List Interval} (hproper : ∀ i ∈ is, i.Proper)
    (hne : ∀ i ∈ is, i.lowerCut < i.upperCut) (h : firstSeamDefect is = none) :
    is.Pairwise fun a b => a.upperCut ≤ b.lowerCut := by
  cases is with
  | nil => exact List.Pairwise.nil
  | cons first rest => exact ((firstSeamDefect_eq_none_iff hproper hne).mp h).pairwise

/-- The outer ends are bad when the first is not `-∞`, or when it is and the last is not `∞`. -/
theorem outerDefect_eq_some_iff {first last : Interval} {e : LabelingError} :
    outerDefect first last = some e ↔
      first.lower ≠ .negInfinity ∧ e = .invalidPartition first.rule .notTotal ∨
      first.lower = .negInfinity ∧ last.upper ≠ .infinity ∧
        e = .invalidPartition last.rule .notTotal := by
  rw [outerDefect, ne_eq, ne_eq, ← Binary64.equals_negInfinity_iff, ← Binary64.equals_infinity_iff]
  cases first.lower.equals .negInfinity <;> cases last.upper.equals .infinity <;> simp [eq_comm]

/-- **The intervals of rules in the order of their starts**: each carries the rule it points to, and
each rule has one of them, which starts before it ends. -/
structure Arranges (is : List Interval) (rules : List LabelingRule) : Prop where
  /-- Each interval carries the rule it points to. -/
  carries : ∀ i ∈ is, ∃ r, rules[i.rule]? = some r ∧ i.Carries r
  /-- Each rule is carried by an interval. -/
  exists_mem : ∀ k r, rules[k]? = some r → ∃ i ∈ is, i.rule = k ∧ i.Carries r
  /-- No two intervals point to one rule. -/
  nodup : (is.map Interval.rule).Nodup
  /-- Each interval has points. -/
  lt : ∀ i ∈ is, i.lowerCut < i.upperCut
  /-- No interval starts before an earlier one. -/
  sorted : is.Pairwise fun a b => a.lowerCut ≤ b.lowerCut

namespace Arranges

variable {rules : List LabelingRule} {is : List Interval}

/-- Arranged intervals are proper. -/
theorem proper (h : Arranges is rules) : ∀ i ∈ is, i.Proper := by
  intro i hi
  obtain ⟨r, -, hcarries⟩ := h.carries i hi
  exact hcarries.proper

/-- Where there are rules there are intervals. -/
theorem ne_nil (h : Arranges is rules) (hne : rules ≠ []) : is ≠ [] := by
  obtain ⟨r, rest, rfl⟩ := List.exists_cons_of_ne_nil hne
  obtain ⟨i, hi, -⟩ := h.exists_mem 0 r rfl
  exact List.ne_nil_of_mem hi

/-- A rule covers the points of its interval. -/
theorem covers_iff (h : Arranges is rules) {k : Nat} {x : EReal} :
    Covers rules k x ↔ ∃ i ∈ is, i.rule = k ∧ x ∈ i.points := by
  constructor
  · rintro ⟨r, points, hr, hpoints, hx⟩
    obtain ⟨i, hi, hk, hcarries⟩ := h.exists_mem k r hr
    exact ⟨i, hi, hk, hpoints.unique hcarries.denotes ▸ hx⟩
  · rintro ⟨i, hi, rfl, hx⟩
    obtain ⟨r, hr, hcarries⟩ := h.carries i hi
    exact ⟨r, i.points, hr, hcarries.denotes, hx⟩

/-- A point is covered by no rule when no interval contains it. -/
theorem not_covers_iff (h : Arranges is rules) {x : EReal} :
    (∀ k, ¬ Covers rules k x) ↔ ∀ i ∈ is, x ∉ i.points := by
  simp only [h.covers_iff, not_exists, not_and]
  exact ⟨fun hx i hi => hx i.rule i hi rfl, fun hx _ i hi _ => hx i hi⟩

/-- The bounds of a rule are the ends of its interval. -/
theorem bound_iff (h : Arranges is rules) {field : LabelingRule → String}
    {value : Interval → Binary64} (hfield : ∀ (i : Interval) (r : LabelingRule), i.Carries r →
      LabelingRule.boundValue (field r) = some (value i)) {k : Nat} {x : EReal} :
    Bound field rules k x ↔ ∃ i ∈ is, i.rule = k ∧ x = (value i).toEReal := by
  constructor
  · rintro ⟨r, bound, hr, hbound, rfl⟩
    obtain ⟨i, hi, hk, hcarries⟩ := h.exists_mem k r hr
    exact ⟨i, hi, hk, by rw [Option.some_inj.mp (hbound.symm.trans (hfield i r hcarries))]⟩
  · rintro ⟨i, hi, rfl, rfl⟩
    obtain ⟨r, hr, hcarries⟩ := h.carries i hi
    exact ⟨r, value i, hr, hfield i r hcarries, rfl⟩

/-- The lower bound of a rule is the lower end of its interval. -/
theorem lowerBound_iff (h : Arranges is rules) {k : Nat} {x : EReal} :
    Bound LabelingRule.lower rules k x ↔ ∃ i ∈ is, i.rule = k ∧ x = i.lower.toEReal :=
  h.bound_iff fun _ _ hcarries => hcarries.lower

/-- The upper bound of a rule is the upper end of its interval. -/
theorem upperBound_iff (h : Arranges is rules) {k : Nat} {x : EReal} :
    Bound LabelingRule.upper rules k x ↔ ∃ i ∈ is, i.rule = k ∧ x = i.upper.toEReal :=
  h.bound_iff fun _ _ hcarries => hcarries.upper

/-! ## Defects of the list -/

variable {front back : List Interval} {a b : Interval}

/-- The intervals at a seam are those of two rules. -/
theorem rule_ne (h : Arranges (front ++ a :: b :: back) rules) : a.rule ≠ b.rule := by
  have hnodup := h.nodup
  rw [List.map_append, List.map_cons, List.map_cons, List.nodup_append, List.nodup_cons] at hnodup
  exact fun heq => hnodup.2.1.1 (heq ▸ List.mem_cons_self)

/-- **A reported overlap is a point of both rules at the seam.** -/
theorem overlap_holds (h : Arranges (front ++ a :: b :: back) rules)
    (hcut : b.lowerCut < a.upperCut) : PartitionDefect.overlap.Holds rules b.rule := by
  have ha : a ∈ front ++ a :: b :: back := by simp
  have hb : b ∈ front ++ a :: b :: back := by simp
  have hstart : a.lowerCut ≤ b.lowerCut :=
    (List.pairwise_cons.mp (List.pairwise_append.mp h.sorted).2.1).1 b List.mem_cons_self
  obtain ⟨x, hxa, hxb⟩ := Interval.exists_mem_points_both hstart (h.lt b hb) hcut
  exact ⟨x, h.covers_iff.mpr ⟨b, hb, rfl, hxb⟩, a.rule, h.rule_ne,
    h.covers_iff.mpr ⟨a, ha, rfl, hxa⟩⟩

/-- **A reported gap is missed by the whole list**: the intervals in front of the seam have ended,
and none of the others has started. -/
theorem gap_holds (h : Arranges (front ++ a :: b :: back) rules)
    (hfront : (front ++ [a]).Pairwise fun i j => i.upperCut ≤ j.lowerCut)
    (hcut : a.upperCut < b.lowerCut) : PartitionDefect.gap.Holds rules b.rule := by
  have ha : a ∈ front ++ a :: b :: back := by simp
  have hb : b ∈ front ++ a :: b :: back := by simp
  obtain ⟨x, hax, hxb⟩ := Interval.exists_real_between (h.lt a ha) (h.lt b hb) hcut
  have hended : ∀ i ∈ front, i.upperCut ≤ a.upperCut := fun i hi =>
    ((List.pairwise_append.mp hfront).2.2 i hi a List.mem_cons_self).trans (h.lt a ha).le
  have hstarts : ∀ i ∈ back, b.lowerCut ≤ i.lowerCut :=
    (List.pairwise_cons.mp (List.pairwise_cons.mp
      (List.pairwise_append.mp h.sorted).2.1).2).1
  -- cuts in order part at points in order
  have hbelow : (x : EReal) ≤ b.lower.toEReal := Prod.Lex.monotone_fst _ _ hxb.le
  refine ⟨x, ⟨_, h.lowerBound_iff.mpr ⟨b, hb, rfl, rfl⟩, hbelow⟩,
    h.not_covers_iff.mpr fun i hi hx => ?_, a.rule, h.rule_ne, ?_, fun y hy => ?_⟩
  · -- what stands up to `a` has ended, what stands from `b` on has not started
    obtain ⟨hlower, hupper⟩ := Interval.mem_points_iff.mp hx
    simp only [List.mem_append, List.mem_cons] at hi
    rcases hi with hi | rfl | rfl | hi
    · exact absurd hupper (not_lt.mpr ((hended i hi).trans hax))
    · exact absurd hupper (not_lt.mpr hax)
    · exact absurd hlower (not_le.mpr hxb)
    · exact absurd hlower (not_le.mpr (hxb.trans_le (hstarts i hi)))
  · obtain ⟨y, hy⟩ := (Interval.points_nonempty_iff a).mpr (h.lt a ha)
    exact ⟨y, h.covers_iff.mpr ⟨a, ha, rfl, hy⟩⟩
  · obtain ⟨i, hi, hrule, hyi⟩ := h.covers_iff.mp hy
    -- the rule of `a` has no other interval
    obtain rfl : i = a := List.inj_on_of_nodup_map h.nodup hi ha hrule
    exact Cut.before_lt_before.mp ((Interval.mem_points_iff.mp hyi).2.trans_le hax)

/-- **When the first interval does not start at `-∞`, no rule covers `-∞`**, and the rule of that
interval has the least lower bound. -/
theorem notTotal_holds_first {first : Interval} {rest : List Interval}
    (h : Arranges (first :: rest) rules) (hfirst : first.lower ≠ .negInfinity) :
    PartitionDefect.notTotal.Holds rules first.rule := by
  have hmem : first ∈ first :: rest := List.mem_cons_self
  have hleast : ∀ i ∈ first :: rest, first.lowerCut ≤ i.lowerCut :=
    List.forall_mem_cons.mpr ⟨le_refl _, (List.pairwise_cons.mp h.sorted).1⟩
  refine Or.inl ⟨h.not_covers_iff.mpr fun i hi hx => hfirst ?_, first.lower.toEReal,
    h.lowerBound_iff.mpr ⟨first, hmem, rfl, rfl⟩, fun j other hother => ?_⟩
  · have hstart : first.lowerCut ≤ Cut.before ⊥ :=
      (hleast i hi).trans (Interval.mem_points_iff.mp hx).1
    exact (h.proper first hmem).lowerCut_eq_before_bot_iff.mp
      (hstart.antisymm (Cut.before_bot_le _))
  · obtain ⟨i, hi, -, rfl⟩ := h.lowerBound_iff.mp hother
    exact Prod.Lex.monotone_fst _ _ (hleast i hi)

/-- **When the intervals tile from `-∞` up to an end other than `∞`, no rule covers `∞`**, and the
rule that ends there has the greatest upper bound. -/
theorem notTotal_holds_last {last : Interval} (h : Arranges is rules) (hlast : last ∈ is)
    (htiling : Tiling (Cut.before ⊥) is last.upperCut) (htop : last.upper ≠ .infinity) :
    PartitionDefect.notTotal.Holds rules last.rule := by
  refine Or.inr ⟨?_, h.not_covers_iff.mpr fun i hi hx => htop ?_, last.upper.toEReal,
    h.upperBound_iff.mpr ⟨last, hlast, rfl, rfl⟩, fun j other hother => ?_⟩
  · have hend : Cut.before ⊥ < last.upperCut := (Cut.before_bot_le _).trans_lt (h.lt last hlast)
    obtain ⟨k, i, hk, hlower, hupper⟩ := htiling.exists_getElem? le_rfl hend
    exact ⟨i.rule, h.covers_iff.mpr ⟨i, List.mem_of_getElem? hk, rfl,
      Interval.mem_points_iff.mpr ⟨hlower, hupper⟩⟩⟩
  · have hend : Cut.before ⊤ < last.upperCut :=
      (Interval.mem_points_iff.mp hx).2.trans_le (htiling.upperCut_le hi)
    exact (h.proper last hlast).upperCut_eq_after_top_iff.mp
      ((Cut.le_after_top _).antisymm (Cut.after_le_of_before_lt hend))
  · obtain ⟨i, hi, -, rfl⟩ := h.upperBound_iff.mp hother
    exact Prod.Lex.monotone_fst _ _ (htiling.upperCut_le hi)

/-- **The defect found in arranged intervals is true of their rules.** -/
theorem holds_of_defect? (h : Arranges is rules) (hne : is ≠ []) {e : LabelingError}
    (he : defect? is = some e) : ∃ k defect, e = .invalidPartition k defect ∧
      (defect = .overlap ∨ defect = .gap ∨ defect = .notTotal) ∧ defect.Holds rules k := by
  cases is with
  | nil => exact absurd rfl hne
  | cons first rest =>
      rw [defect?, Option.or_eq_some_iff] at he
      rcases he with hseam | ⟨hnone, houter⟩
      · obtain ⟨front, a, b, back, defect, hsplit, hfront, hdefect, rfl⟩ :=
          exists_of_firstSeamDefect hseam
        rw [hsplit] at h
        -- the search went through everything up to the bad seam without finding one
        have hsub : ∀ i ∈ front ++ [a], i ∈ front ++ a :: b :: back := by simp; tauto
        have hseparate := pairwise_of_firstSeamDefect (fun i hi => h.proper i (hsub i hi))
          (fun i hi => h.lt i (hsub i hi)) hfront
        rcases (Interval.seamDefect_eq_some_iff (h.proper a (by simp))
          (h.proper b (by simp))).mp hdefect with ⟨rfl, hcut⟩ | ⟨rfl, hcut⟩
        · exact ⟨b.rule, .overlap, rfl, Or.inl rfl, h.overlap_holds hcut⟩
        · exact ⟨b.rule, .gap, rfl, Or.inr (Or.inl rfl), h.gap_holds hseparate hcut⟩
      · -- without a bad seam the intervals tile, and an outer end is open
        rcases outerDefect_eq_some_iff.mp houter with ⟨hfirst, rfl⟩ | ⟨hfirst, hlast, rfl⟩
        · exact ⟨first.rule, .notTotal, rfl, Or.inr (Or.inr rfl), h.notTotal_holds_first hfirst⟩
        · have htiling := (firstSeamDefect_eq_none_iff h.proper h.lt).mp hnone
          rw [(h.proper first List.mem_cons_self).lowerCut_eq_before_bot_iff.mpr hfirst] at htiling
          exact ⟨_, .notTotal, rfl, Or.inr (Or.inr rfl),
            h.notTotal_holds_last (List.getLast_mem _) htiling hlast⟩

end Arranges

/-- **Sorting the intervals of rules arranges them.** -/
theorem arranges_mergeSort {rules : List LabelingRule} {is : List Interval}
    (h : intervalsFrom 0 rules = .ok is) : Arranges (is.mergeSort Interval.startsFirst) rules := by
  obtain ⟨hcarry, hempty⟩ := intervalsFrom_eq_ok_iff_carryAll.mp h
  have hperm := List.mergeSort_perm is Interval.startsFirst
  refine ⟨fun i hi => hcarry.exists_carries (hperm.mem_iff.mp hi), fun k r hr => ?_, ?_,
    fun i hi => ?_, pairwise_lowerCut_mergeSort hcarry.proper⟩
  · obtain ⟨i, hi, hcarries, hrule⟩ :=
      exists_rel_of_mem_left hcarry (List.mem_zipIdx_iff_getElem?.mpr hr : (r, k) ∈ rules.zipIdx)
    exact ⟨i, hperm.mem_iff.mpr hi, hrule, hcarries⟩
  · rw [(hperm.map Interval.rule).nodup_iff, hcarry.map_rule]
    exact List.nodup_range'
  · have hi := hperm.mem_iff.mp hi
    exact ((Interval.isEmpty_eq_false_iff (hcarry.proper i hi)).mp (hempty i hi)).1

/-! ## Compilation -/

/-- **Reading a list of rules fails as the first rule does that fails.** -/
theorem exists_of_intervalsFrom_eq_error {rules : List LabelingRule} {e : LabelingError}
    (h : intervalsFrom 0 rules = .error e) :
    ∃ k r, rules[k]? = some r ∧ Interval.ofRule k r = .error e ∧
      ∀ j < k, ∀ q, rules[j]? = some q → ∃ i, Interval.ofRule j q = .ok i := by
  rw [intervalsFrom_eq_mapM] at h
  obtain ⟨front, entry, back, hsplit, hfront, hentry⟩ := mapM_eq_error_iff.mp h
  -- the rule at a position stands there in the numbered list
  have hnumbered : ∀ k : Nat, (front ++ entry :: back)[k]? = rules[k]?.map fun r => (r, k) := by
    intro k
    rw [← hsplit, List.getElem?_zipIdx, Nat.zero_add]
  have hk := hnumbered front.length
  rw [List.getElem?_append_right le_rfl, Nat.sub_self, List.getElem?_cons_zero, eq_comm,
    Option.map_eq_some_iff] at hk
  obtain ⟨r, hr, rfl⟩ := hk
  refine ⟨front.length, r, hr, hentry, fun j hj q hq => ?_⟩
  have hj' := hnumbered j
  rw [List.getElem?_append_left hj, hq, Option.map_some] at hj'
  exact hfront (q, j) (List.mem_of_getElem? hj')

/-- Each rule of a list that is read can be read by itself. -/
theorem exists_ofRule_of_intervalsFrom {rules : List LabelingRule} {is : List Interval}
    (h : intervalsFrom 0 rules = .ok is) {k : Nat} {r : LabelingRule} (hr : rules[k]? = some r) :
    ∃ i, Interval.ofRule k r = .ok i := by
  rw [intervalsFrom_eq_mapM] at h
  exact exists_mapM_eq_ok_iff.mp ⟨is, h⟩ (r, k) (List.mem_zipIdx_iff_getElem?.mpr hr)

/-- **Reading a list of rules fails exactly as its first rule that fails by itself.** -/
theorem intervalsFrom_eq_error_iff {rules : List LabelingRule} {e : LabelingError} :
    intervalsFrom 0 rules = .error e ↔ ∃ (k : Nat) (r : LabelingRule), rules[k]? = some r ∧
      Interval.ofRule k r = .error e ∧
      ∀ j < k, ∀ q, rules[j]? = some q → ∃ i, Interval.ofRule j q = .ok i := by
  refine ⟨exists_of_intervalsFrom_eq_error, ?_⟩
  rintro ⟨k, r, hr, he, hbefore⟩
  cases hread : intervalsFrom 0 rules with
  | ok is =>
      obtain ⟨i, hi⟩ := exists_ofRule_of_intervalsFrom hread hr
      cases he.symm.trans hi
  | error e' =>
      obtain ⟨k', r', hr', he', hbefore'⟩ := exists_of_intervalsFrom_eq_error hread
      -- of the two positions, each is the first
      rcases lt_trichotomy k k' with hlt | rfl | hgt
      · obtain ⟨i, hi⟩ := hbefore' k hlt r hr
        cases he.symm.trans hi
      · cases hr.symm.trans hr'
        rw [Except.error.inj (he'.symm.trans he)]
      · obtain ⟨i, hi⟩ := hbefore k' hgt r' hr'
        cases he'.symm.trans hi

/-- **Compiling fails with the fault of a rule, or with the defect of the sorted intervals.** -/
theorem compile_eq_error_iff {rules : List LabelingRule} {e : LabelingError} :
    compile rules = .error e ↔ intervalsFrom 0 rules = .error e ∨
      ∃ is, intervalsFrom 0 rules = .ok is ∧
        defect? (is.mergeSort Interval.startsFirst) = some e := by
  rw [compile, bind_eq_error_iff]
  refine or_congr_right (exists_congr fun is => and_congr_right fun _ => ?_)
  dsimp only
  cases defect? (is.mergeSort Interval.startsFirst) with
  | none => simp only [reduceCtorEq]
  | some e' => rw [Except.error.injEq, Option.some.injEq]

/-- **The error of a failed compilation is true of the rules.** When some rule cannot be read by
itself, compiling fails exactly with the error of the first such rule, found by the first check that
rule fails. Otherwise a non-empty list that fails has an overlap, a gap or an open end, and what the
defect says of the rule it names holds. -/
theorem compile_error_holds (rules : List LabelingRule) (e : LabelingError) :
    ((∃ (k : Nat) (r : LabelingRule), rules[k]? = some r ∧ ¬ Passes (r.checks k)) →
      (compile rules = .error e ↔ ∃ (k : Nat) (r : LabelingRule), rules[k]? = some r ∧
        Interval.ofRule k r = .error e ∧ Blames (r.checks k) e ∧
        ∀ j < k, ∀ q : LabelingRule, rules[j]? = some q → Passes (q.checks j))) ∧
    ((∀ (k : Nat) (r : LabelingRule), rules[k]? = some r → Passes (r.checks k)) → rules ≠ [] →
      compile rules = .error e → ∃ k defect, e = .invalidPartition k defect ∧
        (defect = .overlap ∨ defect = .gap ∨ defect = .notTotal) ∧ defect.Holds rules k) := by
  -- a rule can be read by itself exactly when it passes its checks
  have hpasses : ∀ (k : Nat) (r : LabelingRule),
      (∃ i, Interval.ofRule k r = .ok i) ↔ Passes (r.checks k) := fun k r =>
    (Interval.obeys_ofRule k r).exists_ok_iff
  constructor
  · rintro ⟨k, r, hr, hfail⟩
    have hread : ∀ is, intervalsFrom 0 rules ≠ .ok is := fun is his =>
      hfail ((hpasses k r).mp (exists_ofRule_of_intervalsFrom his hr))
    rw [compile_eq_error_iff, or_iff_left fun ⟨is, his, _⟩ => hread is his,
      intervalsFrom_eq_error_iff]
    simp only [hpasses, (Interval.obeys_ofRule _ _).error_iff, and_self_left]
  · intro hall hne h
    rcases compile_eq_error_iff.mp h with hread | ⟨is, hread, hdefect⟩
    · obtain ⟨k, r, hr, herror, -⟩ := exists_of_intervalsFrom_eq_error hread
      obtain ⟨i, hi⟩ := (hpasses k r).mpr (hall k r hr)
      cases herror.symm.trans hi
    · have harranges := arranges_mergeSort hread
      refine harranges.holds_of_defect? (fun hnil => ?_) hdefect
      -- the first rule has an interval
      obtain ⟨r, rest, rfl⟩ := List.exists_cons_of_ne_nil hne
      obtain ⟨i, hi, -⟩ := harranges.exists_mem 0 r rfl
      rw [hnil] at hi
      cases hi

/-- Rules that overlap above zero and miss zero have the gap reported, which is true of them. -/
theorem gap_holds_at_zero :
    compile [⟨"(", "0", "inf", ")", "above"⟩, ⟨"(", "0", "inf", ")", "again"⟩,
        ⟨"(", "-inf", "-0", ")", "below"⟩] = .error (.invalidPartition 0 .gap) ∧
      PartitionDefect.gap.Holds [⟨"(", "0", "inf", ")", "above"⟩,
        ⟨"(", "0", "inf", ")", "again"⟩, ⟨"(", "-inf", "-0", ")", "below"⟩] 0 := by
  have hcompile : compile [⟨"(", "0", "inf", ")", "above"⟩, ⟨"(", "0", "inf", ")", "again"⟩,
      ⟨"(", "-inf", "-0", ")", "below"⟩] = .error (.invalidPartition 0 .gap) := by
    rw [compile_eq_insertion]
    decide +kernel
  have hread : ∃ is, intervalsFrom 0 [⟨"(", "0", "inf", ")", "above"⟩,
      ⟨"(", "0", "inf", ")", "again"⟩, ⟨"(", "-inf", "-0", ")", "below"⟩] = .ok is := by
    decide +kernel
  obtain ⟨is, hread⟩ := hread
  obtain ⟨k, defect, he, -, hholds⟩ := (compile_error_holds _ _).2
    (fun k r hr => (Interval.obeys_ofRule k r).exists_ok_iff.mp
      (exists_ofRule_of_intervalsFrom hread hr))
    (List.cons_ne_nil _ _) hcompile
  cases he
  exact ⟨hcompile, hholds⟩

end LabelPartition

end CubeAssessment
