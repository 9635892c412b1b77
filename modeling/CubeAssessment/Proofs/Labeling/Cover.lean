import CubeAssessment.Proofs.Collections.Ascending
import CubeAssessment.Proofs.Labeling.Reading
import CubeAssessment.Proofs.Labeling.Tiling

/-! # What compiles

Compiling looks at brackets, at neighbours and at the two outer ends. What it accepts can be said
without any order: exactly the lists of rules whose sets of points are non-empty, pairwise disjoint
and together the extended real line. -/

namespace CubeAssessment

/-! ## The points of a rule -/

/-- **The set of points a rule denotes**: those between its bounds, and a bound itself when the
bracket there is square or the bound is the infinity of that side. A rule with a bracket or bound
that cannot be read denotes nothing. -/
def LabelingRule.Denotes (r : LabelingRule) (points : Set EReal) : Prop :=
  ∃ (left right : Bool) (lower upper : Binary64),
    leftInclusive r.left = some left ∧ boundValue r.lower = some lower ∧
      boundValue r.upper = some upper ∧ rightInclusive r.right = some right ∧
        points = { x |
          (lower.toEReal < x ∨ x = lower.toEReal ∧ (left = true ∨ lower = .negInfinity)) ∧
            (x < upper.toEReal ∨ x = upper.toEReal ∧ (right = true ∨ upper = .infinity)) }

/-- A rule denotes at most one set of points. -/
theorem LabelingRule.Denotes.unique {r : LabelingRule} {s t : Set EReal} (hs : r.Denotes s)
    (ht : r.Denotes t) : s = t := by
  obtain ⟨left, right, lower, upper, hleft, hlower, hupper, hright, rfl⟩ := hs
  obtain ⟨left', right', lower', upper', hleft', hlower', hupper', hright', rfl⟩ := ht
  cases hleft.symm.trans hleft'
  cases hlower.symm.trans hlower'
  cases hupper.symm.trans hupper'
  cases hright.symm.trans hright'
  rfl

/-- A rule denotes the points of the interval that carries it. -/
theorem Interval.Carries.denotes {i : Interval} {r : LabelingRule} (h : i.Carries r) :
    r.Denotes i.points := by
  obtain ⟨left, hleft, hli⟩ := h.left
  obtain ⟨right, hright, hui⟩ := h.right
  refine ⟨left, right, i.lower, i.upper, hleft, h.lower, h.upper, hright, ?_⟩
  rw [Interval.points, ← hli, ← hui]

/-- The points a rule denotes are those of an interval that carries it. -/
theorem LabelingRule.Denotes.exists_carries {r : LabelingRule} {points : Set EReal}
    (h : r.Denotes points) (rule : Nat) :
    ∃ i : Interval, (i.Carries r ∧ i.rule = rule) ∧ i.points = points := by
  obtain ⟨left, right, lower, upper, hleft, hlower, hupper, hright, rfl⟩ := h
  refine ⟨⟨lower, upper, left || decide (lower = .negInfinity), right || decide (upper = .infinity),
    r.label, rule⟩, ⟨⟨hlower, hupper, ⟨left, hleft, ?_⟩, ⟨right, hright, ?_⟩, rfl⟩, rfl⟩, ?_⟩
  · rw [Bool.or_eq_true, decide_eq_true_iff]
  · rw [Bool.or_eq_true, decide_eq_true_iff]
  · simp only [Interval.points, Bool.or_eq_true, decide_eq_true_iff]

namespace LabelPartition

/-- Intervals that carry rules one by one have the points that these denote. -/
theorem CarryAll.denotes {start : Nat} {rules : List LabelingRule} {is : List Interval}
    (h : CarryAll start rules is) :
    List.Forall₂ LabelingRule.Denotes rules (is.map Interval.points) := by
  rw [← List.zipIdx_map_fst start rules, List.forall₂_map_left_iff, List.forall₂_map_right_iff]
  exact h.imp fun _ _ hi => hi.1.denotes

/-- Sets that rules denote are the points of intervals that carry the rules one by one. -/
theorem exists_carryAll {rules : List LabelingRule} {sets : List (Set EReal)}
    (h : List.Forall₂ LabelingRule.Denotes rules sets) (start : Nat) :
    ∃ is, CarryAll start rules is ∧ is.map Interval.points = sets := by
  induction h generalizing start with
  | nil => exact ⟨[], .nil, rfl⟩
  | cons hr _ ih =>
      obtain ⟨i, hi, rfl⟩ := hr.exists_carries start
      obtain ⟨is, his, rfl⟩ := ih (start + 1)
      exact ⟨i :: is, .cons hi his, rfl⟩

/-! ## Sorted intervals -/

/-- Sorting by `startsFirst` sorts by the lower cuts. -/
theorem pairwise_lowerCut_mergeSort {is : List Interval} (hproper : ∀ i ∈ is, i.Proper) :
    (is.mergeSort Interval.startsFirst).Pairwise fun a b => a.lowerCut ≤ b.lowerCut := by
  refine (List.pairwise_mergeSort Interval.startsFirst_trans Interval.startsFirst_total
    is).imp_of_mem fun ha hb h => ?_
  exact (Interval.startsFirst_iff (hproper _ (List.mem_mergeSort.mp ha))
    (hproper _ (List.mem_mergeSort.mp hb))).mp h

/-- **Compiling sorts the intervals of the rules by insertion** and looks for the first defect. In
this form it can be run within a proof. -/
theorem compile_eq_insertion (rules : List LabelingRule) : compile rules =
    (intervalsFrom 0 rules).bind fun is =>
      let sorted := is.insertionSort fun a b => a.startsFirst b = true
      match defect? sorted with
      | some error => .error error
      | none => .ok ⟨sorted.toArray⟩ := by
  simp only [← mergeSort_eq_insertionSort_of_total Interval.startsFirst_trans
    Interval.startsFirst_total]
  rfl

/-- Disjoint intervals that stand in the order of their starts are separate. -/
theorem pairwise_separate {is : List Interval} (hne : ∀ i ∈ is, i.lowerCut < i.upperCut)
    (hsorted : is.Pairwise fun a b => a.lowerCut ≤ b.lowerCut)
    (hdisjoint : is.Pairwise fun a b => Disjoint a.points b.points) :
    is.Pairwise fun a b => a.upperCut ≤ b.lowerCut := by
  refine (hsorted.and hdisjoint).imp_of_mem fun ha hb h => ?_
  obtain ⟨hstarts, hd⟩ := h
  refine ((Interval.disjoint_points_iff (hne _ ha) (hne _ hb)).mp hd).resolve_right fun hba => ?_
  exact absurd (hba.trans hstarts) (not_le.mpr (hne _ hb))

/-- In a tiling of the whole line no interval is a single infinity: its neighbour would end just
short of that infinity, which no proper interval does. -/
theorem isEmpty_eq_false_of_tiling {is : List Interval} (hproper : ∀ i ∈ is, i.Proper)
    (h : Tiling (Cut.before ⊥) is (Cut.after ⊤)) {i : Interval} (hi : i ∈ is)
    (hne : i.lowerCut < i.upperCut) : i.isEmpty = false := by
  refine (Interval.isEmpty_eq_false_iff (hproper i hi)).mpr ⟨hne, fun htop => ?_, fun hbot => ?_⟩
  · have hlower : i.lowerCut = Cut.before ⊤ := Interval.lowerCut_eq_before_top hne htop
    rcases h.exists_upperCut_eq hi with heq | ⟨j, hj, heq⟩
    · exact absurd (hlower.symm.trans heq) (by simp [Cut.before])
    · exact (hproper j hj).upperCut_ne_before_top (heq.trans hlower)
  · have hupper : i.upperCut = Cut.after ⊥ := Interval.upperCut_eq_after_bot hne hbot
    rcases h.exists_lowerCut_eq hi with heq | ⟨j, hj, heq⟩
    · exact absurd (hupper.symm.trans heq) (by simp [Cut.after])
    · exact (hproper j hj).lowerCut_ne_after_bot (heq.trans hupper)

/-! ## Compiled partitions -/

/-- **The intervals of a compiled partition** are those that carry the rules, in another order, and
tile the whole line. -/
theorem exists_tiling_of_compile {rules : List LabelingRule} {p : LabelPartition}
    (h : compile rules = .ok p) :
    ∃ is, CarryAll 0 rules is ∧ p.intervals.toList.Perm is ∧
      Tiling (Cut.before ⊥) p.intervals.toList (Cut.after ⊤) := by
  obtain ⟨is, hread, hnone, rfl⟩ := compile_eq_ok_iff.mp h
  obtain ⟨hcarry, hempty⟩ := intervalsFrom_eq_ok_iff_carryAll.mp hread
  have hproper : ∀ i ∈ is.mergeSort Interval.startsFirst, i.Proper := fun i hi =>
    hcarry.proper i (List.mem_mergeSort.mp hi)
  have hne : ∀ i ∈ is.mergeSort Interval.startsFirst, i.lowerCut < i.upperCut := fun i hi =>
    ((Interval.isEmpty_eq_false_iff (hproper i hi)).mp (hempty i (List.mem_mergeSort.mp hi))).1
  exact ⟨is, hcarry, List.mergeSort_perm _ _, (defect?_eq_none_iff hproper hne).mp hnone⟩

/-- The intervals of a compiled partition are proper. -/
theorem proper_of_compile {rules : List LabelingRule} {p : LabelPartition}
    (h : compile rules = .ok p) : ∀ i ∈ p.intervals.toList, i.Proper := by
  obtain ⟨is, hcarry, hperm, -⟩ := exists_tiling_of_compile h
  exact fun i hi => hcarry.proper i (hperm.mem_iff.mp hi)

/-- A compiled partition has an interval for each rule. -/
theorem size_of_compile {rules : List LabelingRule} {p : LabelPartition}
    (h : compile rules = .ok p) : p.size = rules.length := by
  obtain ⟨is, hcarry, hperm, -⟩ := exists_tiling_of_compile h
  have hlength := congrArg List.length hcarry.map_rule
  rw [List.length_map, List.length_range'] at hlength
  rw [size, ← Array.length_toList, hperm.length_eq, hlength]

/-- Rules compile when the intervals that carry them are non-empty, disjoint and cover the line. -/
theorem compile_of_cover {rules : List LabelingRule} {is : List Interval}
    (hcarry : CarryAll 0 rules is) (hne : ∀ i ∈ is, i.points.Nonempty)
    (hdisjoint : is.Pairwise fun a b => Disjoint a.points b.points)
    (hcover : ∀ x, ∃ i ∈ is, x ∈ i.points) : ∃ p, compile rules = .ok p := by
  have hproper := hcarry.proper
  have hperm := List.mergeSort_perm is Interval.startsFirst
  have hlt : ∀ i ∈ is, i.lowerCut < i.upperCut := fun i hi =>
    (Interval.points_nonempty_iff i).mp (hne i hi)
  have hlt' : ∀ i ∈ is.mergeSort Interval.startsFirst, i.lowerCut < i.upperCut := fun i hi =>
    hlt i (hperm.mem_iff.mp hi)
  have hproper' : ∀ i ∈ is.mergeSort Interval.startsFirst, i.Proper := fun i hi =>
    hproper i (hperm.mem_iff.mp hi)
  -- sorted and disjoint, each interval ends before the next starts
  have hseparate := pairwise_separate hlt' (pairwise_lowerCut_mergeSort hproper)
    (hperm.symm.pairwise hdisjoint fun h => h.symm)
  have htiling : Tiling (Cut.before ⊥) (is.mergeSort Interval.startsFirst) (Cut.after ⊤) := by
    refine tiling_of_cover hlt' hseparate (fun i _ => Cut.before_bot_le _)
      (fun i _ => Cut.le_after_top _) (Cut.before_bot_le _) fun x _ _ => ?_
    obtain ⟨i, hi, hx⟩ := hcover x
    exact ⟨i, hperm.mem_iff.mpr hi, hx⟩
  -- the check for emptiness also refuses single infinities, of which a tiling has none
  have hempty : ∀ i ∈ is, i.isEmpty = false := fun i hi =>
    isEmpty_eq_false_of_tiling hproper' htiling (hperm.mem_iff.mpr hi) (hlt i hi)
  exact ⟨_, compile_eq_ok_iff.mpr ⟨is, intervalsFrom_eq_ok_iff_carryAll.mpr ⟨hcarry, hempty⟩,
    (defect?_eq_none_iff hproper' hlt').mpr htiling, rfl⟩⟩

/-- **Rules compile exactly when the intervals that carry them cut the line into pieces**:
non-empty, disjoint and covering every point. -/
theorem exists_compile_eq_ok_iff {rules : List LabelingRule} : (∃ p, compile rules = .ok p) ↔
    ∃ is, CarryAll 0 rules is ∧ (∀ i ∈ is, i.points.Nonempty) ∧
      (is.Pairwise fun a b => Disjoint a.points b.points) ∧ ∀ x, ∃ i ∈ is, x ∈ i.points := by
  constructor
  · rintro ⟨p, hp⟩
    obtain ⟨is, hcarry, hperm, htiling⟩ := exists_tiling_of_compile hp
    refine ⟨is, hcarry, fun i hi => ?_, ?_, fun x => ?_⟩
    · exact (Interval.points_nonempty_iff i).mpr
        (htiling.lowerCut_lt_upperCut (hperm.mem_iff.mpr hi))
    · exact hperm.pairwise (htiling.pairwise.imp Interval.disjoint_points) fun h => h.symm
    · obtain ⟨i, hi, hx⟩ := htiling.exists_mem_points x
      exact ⟨i, hperm.mem_iff.mp hi, hx⟩
  · rintro ⟨is, hcarry, hne, hdisjoint, hcover⟩
    exact compile_of_cover hcarry hne hdisjoint hcover

/-- **Exactly the partitions of the extended real line compile.** Rules compile if and only if each
denotes a set and these sets are non-empty, pairwise disjoint and together the whole line. The
compiled partition then has one interval for each rule, each carrying the rule it points to, in
ascending order. -/
theorem compile_isOk_iff_partition (rules : List LabelingRule) :
    ((∃ p, compile rules = .ok p) ↔
      ∃ sets : List (Set EReal), List.Forall₂ LabelingRule.Denotes rules sets ∧
        (∀ s ∈ sets, s.Nonempty) ∧ sets.Pairwise Disjoint ∧ ⋃ s ∈ sets, s = Set.univ) ∧
    ∀ p, compile rules = .ok p →
      (p.intervals.toList.map Interval.rule).Perm (List.range rules.length) ∧
      (∀ i ∈ p.intervals, ∃ r, rules[i.rule]? = some r ∧ i.Carries r) ∧
      p.intervals.toList.Pairwise fun a b => ∀ x ∈ a.points, ∀ y ∈ b.points, x < y := by
  refine ⟨exists_compile_eq_ok_iff.trans ⟨?_, ?_⟩, fun p hp => ?_⟩
  · rintro ⟨is, hcarry, hne, hdisjoint, hcover⟩
    refine ⟨is.map Interval.points, hcarry.denotes, List.forall_mem_map.mpr hne,
      List.pairwise_map.mpr hdisjoint, Set.eq_univ_of_forall fun x => Set.mem_iUnion₂.mpr ?_⟩
    obtain ⟨i, hi, hx⟩ := hcover x
    exact ⟨i.points, List.mem_map_of_mem hi, hx⟩
  · rintro ⟨sets, hdenotes, hne, hdisjoint, hcover⟩
    obtain ⟨is, hcarry, rfl⟩ := exists_carryAll hdenotes 0
    refine ⟨is, hcarry, List.forall_mem_map.mp hne, List.pairwise_map.mp hdisjoint, fun x => ?_⟩
    have hx : x ∈ ⋃ s ∈ is.map Interval.points, s := hcover ▸ Set.mem_univ x
    obtain ⟨s, hs, hx⟩ := Set.mem_iUnion₂.mp hx
    obtain ⟨i, hi, rfl⟩ := List.mem_map.mp hs
    exact ⟨i, hi, hx⟩
  · obtain ⟨is, hcarry, hperm, htiling⟩ := exists_tiling_of_compile hp
    refine ⟨?_, fun i hi => ?_, ?_⟩
    · rw [List.range_eq_range', ← hcarry.map_rule]
      exact hperm.map _
    · exact hcarry.exists_carries (hperm.mem_iff.mp (Array.mem_toList_iff.mpr hi))
    · exact htiling.pairwise.imp fun h x hx y hy => Interval.lt_of_mem_points h hx hy

end LabelPartition

end CubeAssessment
