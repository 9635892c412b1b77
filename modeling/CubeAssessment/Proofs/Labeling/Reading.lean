import CubeAssessment.Labeling.Partition
import CubeAssessment.Proofs.Collections.Traversal
import CubeAssessment.Proofs.Labeling.Cut

/-! # The intervals of rules

An interval *carries* a rule when its bounds, its label and what belongs to it are those of the rule
(`Interval.Carries`). Reading a rule succeeds exactly with the interval that carries it and is not
empty (`ofRule_eq_ok_iff`), and reading a list of rules does so rule by rule
(`intervalsFrom_eq_mapM`). -/

namespace CubeAssessment

namespace Binary64

/-- Dropping the sign of zero leaves a boundary of a number. -/
theorem isBoundary_withoutNegativeZero {x : Binary64} (hx : x ≠ nan) :
    x.withoutNegativeZero.IsBoundary := by
  match x, hx with
  | signed false m, _ => exact ⟨nofun, nofun⟩
  | signed true m, _ =>
      rw [withoutNegativeZero]
      split
      · exact ⟨nofun, nofun⟩
      · next hcode =>
        refine ⟨nofun, fun h => hcode ?_⟩
        injection h with _ hm
        rw [hm, Magnitude.zero]

end Binary64

namespace LabelingRule

/-- **A bound that can be read is a boundary.** -/
theorem isBoundary_of_boundValue {text : String} {x : Binary64} (h : boundValue text = some x) :
    x.IsBoundary := by
  rw [boundValue] at h
  split at h
  · cases h
    exact ⟨by decide, by decide⟩
  · split at h
    · cases h
      exact ⟨by decide, by decide⟩
    · obtain ⟨y, hy, rfl⟩ := Option.map_eq_some_iff.mp h
      obtain ⟨-, hfinite⟩ := Option.filter_eq_some_iff.mp hy
      refine Binary64.isBoundary_withoutNegativeZero fun hnan => ?_
      rw [hnan] at hfinite
      cases hfinite

end LabelingRule

namespace Interval

/-! ## Carrying a rule -/

/-- **An interval carries a rule**: it has the bounds and the label of the rule, and an end belongs
to it when the bracket there says so or the end is infinite. -/
structure Carries (i : Interval) (r : LabelingRule) : Prop where
  /-- The lower end is the lower bound. -/
  lower : LabelingRule.boundValue r.lower = some i.lower
  /-- The upper end is the upper bound. -/
  upper : LabelingRule.boundValue r.upper = some i.upper
  /-- The left bracket decides on the lower end. -/
  left : ∃ closed, LabelingRule.leftInclusive r.left = some closed ∧
    (i.lowerInclusive = true ↔ closed = true ∨ i.lower = .negInfinity)
  /-- The right bracket decides on the upper end. -/
  right : ∃ closed, LabelingRule.rightInclusive r.right = some closed ∧
    (i.upperInclusive = true ↔ closed = true ∨ i.upper = .infinity)
  /-- The label is that of the rule. -/
  label : i.label = r.label

/-- An interval that carries a rule is proper. -/
theorem Carries.proper {i : Interval} {r : LabelingRule} (h : i.Carries r) : i.Proper where
  lower := LabelingRule.isBoundary_of_boundValue h.lower
  upper := LabelingRule.isBoundary_of_boundValue h.upper
  lowerInclusive_of_bot := fun hbot => by
    obtain ⟨closed, -, hclosed⟩ := h.left
    exact hclosed.mpr (Or.inr hbot)
  upperInclusive_of_top := fun htop => by
    obtain ⟨closed, -, hclosed⟩ := h.right
    exact hclosed.mpr (Or.inr htop)

/-- The interval made of what the fields of a rule are read as carries the rule. -/
theorem carries_of_readings {r : LabelingRule} {left right : Bool} {lower upper : Binary64}
    (hleft : LabelingRule.leftInclusive r.left = some left)
    (hlower : LabelingRule.boundValue r.lower = some lower)
    (hupper : LabelingRule.boundValue r.upper = some upper)
    (hright : LabelingRule.rightInclusive r.right = some right) (rule : Nat) :
    Carries ⟨lower, upper, left || lower.equals .negInfinity, right || upper.equals .infinity,
      r.label, rule⟩ r := by
  refine ⟨hlower, hupper, ⟨left, hleft, ?_⟩, ⟨right, hright, ?_⟩, rfl⟩
  · rw [Bool.or_eq_true, Binary64.equals_negInfinity_iff]
  · rw [Bool.or_eq_true, Binary64.equals_infinity_iff]

/-- A required reading succeeds with what was read. -/
theorem orFail_eq_ok_iff {α : Type} {error : LabelingError} {reading : Option α} {a : α} :
    orFail error reading = .ok a ↔ reading = some a := by
  cases reading with
  | none => exact iff_of_false nofun nofun
  | some b => rw [orFail, Except.ok.injEq, Option.some.injEq]

/-- **Reading a rule succeeds exactly with the interval that carries it, unless that is empty.** -/
theorem ofRule_eq_ok_iff {rule : Nat} {r : LabelingRule} {i : Interval} :
    ofRule rule r = .ok i ↔ i.Carries r ∧ i.rule = rule ∧ i.isEmpty = false := by
  simp only [ofRule, bind_eq_ok_iff, orFail_eq_ok_iff]
  constructor
  · rintro ⟨left, hleft, lower, hlower, upper, hupper, right, hright, h⟩
    split at h
    · cases h
    · next hempty =>
      cases h
      exact ⟨carries_of_readings hleft hlower hupper hright rule, rfl,
        Bool.eq_false_of_not_eq_true hempty⟩
  · rintro ⟨⟨hlower, hupper, ⟨left, hleft, hli⟩, ⟨right, hright, hui⟩, hlabel⟩, hrule, hempty⟩
    refine ⟨left, hleft, i.lower, hlower, i.upper, hupper, right, hright, ?_⟩
    -- the interval made is `i`, field by field
    have hl : (left || i.lower.equals .negInfinity) = i.lowerInclusive := by
      rw [Bool.eq_iff_iff, hli, Bool.or_eq_true, Binary64.equals_negInfinity_iff]
    have hu : (right || i.upper.equals .infinity) = i.upperInclusive := by
      rw [Bool.eq_iff_iff, hui, Bool.or_eq_true, Binary64.equals_infinity_iff]
    rw [hl, hu, ← hlabel, ← hrule, if_neg (by rw [hempty]; decide)]

end Interval

namespace LabelPartition

/-! ## Lists of rules -/

/-- A list of rules is read rule by rule, each at its position. -/
theorem intervalsFrom_eq_mapM (start : Nat) (rules : List LabelingRule) :
    intervalsFrom start rules =
      (rules.zipIdx start).mapM fun entry => Interval.ofRule entry.2 entry.1 := by
  induction rules generalizing start with
  | nil => rfl
  | cons r rules ih =>
      rw [intervalsFrom, List.zipIdx_cons, List.mapM_cons, ih]

/-- **The intervals carry the rules one by one**, whether they are empty or not; the first rule has
the position `start`. -/
def CarryAll (start : Nat) (rules : List LabelingRule) (is : List Interval) : Prop :=
  List.Forall₂ (fun entry i => i.Carries entry.1 ∧ i.rule = entry.2) (rules.zipIdx start) is

/-- **Reading a list of rules succeeds exactly with the intervals that carry them, unless one of
these is empty.** -/
theorem intervalsFrom_eq_ok_iff_carryAll {start : Nat} {rules : List LabelingRule}
    {is : List Interval} : intervalsFrom start rules = .ok is ↔
      CarryAll start rules is ∧ ∀ i ∈ is, i.isEmpty = false := by
  rw [intervalsFrom_eq_mapM, mapM_eq_ok_iff, CarryAll]
  simp only [Interval.ofRule_eq_ok_iff]
  generalize rules.zipIdx start = entries
  constructor
  · intro h
    induction h with
    | nil => exact ⟨.nil, fun i hi => by cases hi⟩
    | cons hi _ ih =>
        exact ⟨.cons ⟨hi.1, hi.2.1⟩ ih.1, List.forall_mem_cons.mpr ⟨hi.2.2, ih.2⟩⟩
  · rintro ⟨h, hempty⟩
    induction h with
    | nil => exact .nil
    | cons hi _ ih =>
        obtain ⟨hempty, hrest⟩ := List.forall_mem_cons.mp hempty
        exact .cons ⟨hi.1, hi.2, hempty⟩ (ih hrest)

/-- Intervals that carry rules one by one carry each the rule they point to. -/
theorem CarryAll.exists_carries {rules : List LabelingRule} {is : List Interval}
    (h : CarryAll 0 rules is) {i : Interval} (hi : i ∈ is) :
    ∃ r, rules[i.rule]? = some r ∧ i.Carries r := by
  obtain ⟨entry, hmem, hcarries, hrule⟩ := exists_rel_of_mem_right h hi
  exact ⟨entry.1, hrule ▸ List.mem_zipIdx_iff_getElem?.mp hmem, hcarries⟩

/-- Intervals that carry rules one by one are proper. -/
theorem CarryAll.proper {rules : List LabelingRule} {is : List Interval} (h : CarryAll 0 rules is) :
    ∀ i ∈ is, i.Proper := by
  intro i hi
  obtain ⟨r, -, hcarries⟩ := h.exists_carries hi
  exact hcarries.proper

/-- **There is one interval for each rule**: the positions are counted up from `start`. -/
theorem CarryAll.map_rule {start : Nat} {rules : List LabelingRule} {is : List Interval}
    (h : CarryAll start rules is) : is.map Interval.rule = List.range' start rules.length := by
  rw [← List.zipIdx_map_snd start rules, eq_comm, ← List.forall₂_eq_eq_eq,
    List.forall₂_map_left_iff, List.forall₂_map_right_iff]
  exact h.imp fun _ _ hi => hi.2.symm

/-- **Compiling succeeds exactly with the sorted intervals of the rules when these have no
defect.** -/
theorem compile_eq_ok_iff {rules : List LabelingRule} {p : LabelPartition} :
    compile rules = .ok p ↔ ∃ is, intervalsFrom 0 rules = .ok is ∧
      defect? (is.mergeSort Interval.startsFirst) = none ∧
      p = ⟨(is.mergeSort Interval.startsFirst).toArray⟩ := by
  rw [compile, bind_eq_ok_iff]
  refine exists_congr fun is => and_congr_right fun _ => ?_
  dsimp only
  split
  · next e hdefect =>
    rw [hdefect]
    exact iff_of_false nofun nofun
  · next hnone => rw [hnone, Except.ok.injEq, eq_comm, and_iff_right rfl]

end LabelPartition

end CubeAssessment
