import CubeAssessment.Assessment.Query
import CubeAssessment.Proofs.Labeling.Classification
import CubeAssessment.Proofs.Numeric.ReadBack
import CubeAssessment.Proofs.Text.Blank

/-! # Normalized rules

A partition writes its intervals as rules again, and compiling these rules gives the intervals back,
numbered in their order (`compile_rules_eq`): every bound is read back from its text, and the
intervals already stand as sorting would put them. So the normalized rules are a normal form of the
partition (`compile_normalized_rules`), and the partition itself comes back exactly when its own
rules were given in ascending order. -/

namespace CubeAssessment

/-- A boundary is not changed by making zero positive. -/
theorem Binary64.IsBoundary.withoutNegativeZero_eq {x : Binary64} (hx : x.IsBoundary) :
    x.withoutNegativeZero = x := by
  match x, hx with
  | .nan, _ => rfl
  | .signed false m, _ => rfl
  | .signed true m, hx =>
    refine if_neg fun hcode => hx.ne_negZero ?_
    rw [Magnitude.eq_zero_of_code hcode]

namespace LabelingRule

/-- A left bracket is read back. -/
theorem leftInclusive_bracket (closed : Bool) :
    leftInclusive (if closed then "[" else "(") = some closed := by
  cases closed <;> decide

/-- A right bracket is read back. -/
theorem rightInclusive_bracket (closed : Bool) :
    rightInclusive (if closed then "]" else ")") = some closed := by
  cases closed <;> decide

/-- **A bound is read back from its text.** -/
theorem boundValue_generalText {x : Binary64} (hx : x.IsBoundary) :
    boundValue x.generalText = some x := by
  by_cases hfinite : x.isFinite = true
  · have htrim : Text.trim x.generalText = x.generalText :=
      Text.trim_eq_self fun c hc => Binary64.isBlank_of_mem_generalText hfinite hc
    have hread := Literal.readFinite_generalText hfinite
    -- the texts of the infinities are no literals of real numbers
    have hword : ∀ word, Literal.readFinite word = none → x.generalText ≠ word := by
      rintro word hword rfl
      rw [hread] at hword
      cases hword
    have hneg : x.generalText ≠ "-inf" := hword _ (by decide)
    have hpos : ¬ (x.generalText = "inf" ∨ x.generalText = "+inf") :=
      not_or.mpr ⟨hword _ (by decide), hword _ (by decide)⟩
    rw [boundValue, htrim, if_neg hneg, if_neg hpos, hread, Option.map_some,
      hx.withoutNegativeZero_eq]
  · rw [Binary64.isFinite_iff hx.ne_nan, not_and_or, not_not, not_not] at hfinite
    rcases hfinite with rfl | rfl
    · decide
    · decide

end LabelingRule

namespace Interval

/-- **A proper interval carries its normalized rule.** -/
theorem Proper.carries_toRule {i : Interval} (hi : i.Proper) : i.Carries i.toRule where
  lower := LabelingRule.boundValue_generalText hi.lower
  upper := LabelingRule.boundValue_generalText hi.upper
  left := ⟨i.lowerInclusive, LabelingRule.leftInclusive_bracket _,
    Or.inl, fun h => h.elim id hi.lowerInclusive_of_bot⟩
  right := ⟨i.upperInclusive, LabelingRule.rightInclusive_bracket _,
    Or.inl, fun h => h.elim id hi.upperInclusive_of_top⟩
  label := rfl

/-- A rule and its position determine the interval that carries the rule. -/
theorem Carries.unique {i j : Interval} {r : LabelingRule} (hi : i.Carries r) (hj : j.Carries r)
    (hrule : i.rule = j.rule) : i = j := by
  have hlower : i.lower = j.lower := Option.some_inj.mp (hi.lower.symm.trans hj.lower)
  have hupper : i.upper = j.upper := Option.some_inj.mp (hi.upper.symm.trans hj.upper)
  have hleft : i.lowerInclusive = j.lowerInclusive := by
    obtain ⟨closed, hclosed, h⟩ := hi.left
    obtain ⟨closed', hclosed', h'⟩ := hj.left
    cases hclosed.symm.trans hclosed'
    rw [Bool.eq_iff_iff, h, h', hlower]
  have hright : i.upperInclusive = j.upperInclusive := by
    obtain ⟨closed, hclosed, h⟩ := hi.right
    obtain ⟨closed', hclosed', h'⟩ := hj.right
    cases hclosed.symm.trans hclosed'
    rw [Bool.eq_iff_iff, h, h', hupper]
  have hlabel : i.label = j.label := hi.label.trans hj.label.symm
  cases i
  cases j
  rw [mk.injEq]
  exact ⟨hlower, hupper, hleft, hright, hlabel, hrule⟩

/-- A proper interval under another number agrees with it exactly when it has this number. -/
theorem Proper.renumbered_agrees_iff {i : Interval} (hi : i.Proper) (rule : Nat) :
    ({ i with rule } : Interval).agrees i = true ↔ i.rule = rule := by
  have hlower : i.lower.equals i.lower = true :=
    (Binary64.equals_iff hi.lower.ne_nan hi.lower.ne_nan).mpr rfl
  have hupper : i.upper.equals i.upper = true :=
    (Binary64.equals_iff hi.upper.ne_nan hi.upper.ne_nan).mpr rfl
  rw [eq_comm (a := i.rule)]
  simp [agrees, hlower, hupper]

end Interval

namespace LabelPartition

/-! ## Intervals numbered in their order -/

/-- The intervals with the places they stand at as rules, the first at `start`. -/
def numbered (start : Nat) (is : List Interval) : List Interval :=
  (is.zipIdx start).map fun entry => { entry.1 with rule := entry.2 }

@[simp] theorem numbered_nil (start : Nat) : numbered start [] = [] := rfl

@[simp] theorem numbered_cons (start : Nat) (i : Interval) (is : List Interval) :
    numbered start (i :: is) = { i with rule := start } :: numbered (start + 1) is := rfl

/-- Numbering leaves the normalized rules as they are. -/
theorem map_toRule_numbered (start : Nat) (is : List Interval) :
    (numbered start is).map Interval.toRule = is.map Interval.toRule := by
  induction is generalizing start with
  | nil => rfl
  | cons i is ih =>
      rw [numbered_cons, List.map_cons, List.map_cons, ih]
      rfl

/-- Numbering keeps each interval in its place. -/
theorem getElem?_numbered (start : Nat) (is : List Interval) (k : Nat) :
    (numbered start is)[k]? = is[k]?.map fun i => { i with rule := start + k } := by
  rw [numbered, List.getElem?_map, List.getElem?_zipIdx, Option.map_map]
  rfl

/-- Numbered intervals tile what the intervals tile. -/
theorem tiling_numbered {c d : Cut} {is : List Interval} (h : Tiling c is d) (start : Nat) :
    Tiling c (numbered start is) d := by
  induction is generalizing c start with
  | nil => exact h
  | cons i is ih =>
      obtain ⟨hlower, hlt, hrest⟩ := h
      exact ⟨hlower, hlt, ih hrest (start + 1)⟩

/-- **Numbered proper intervals carry the normalized rules one by one.** -/
theorem carryAll_numbered {is : List Interval} (h : ∀ i ∈ is, i.Proper) (start : Nat) :
    CarryAll start (is.map Interval.toRule) (numbered start is) := by
  induction is generalizing start with
  | nil => exact .nil
  | cons i is ih =>
      obtain ⟨hi, his⟩ := List.forall_mem_cons.mp h
      obtain ⟨hlower, hupper, hleft, hright, hlabel⟩ := hi.carries_toRule
      exact .cons ⟨⟨hlower, hupper, hleft, hright, hlabel⟩, rfl⟩ (ih his (start + 1))

/-- **Numbered proper intervals agree with the intervals exactly when these are numbered so.** -/
theorem all_numbered_agrees_iff {is : List Interval} (h : ∀ i ∈ is, i.Proper) (start : Nat) :
    (((numbered start is).zip is).all fun pair => pair.1.agrees pair.2) = true ↔
      is.map Interval.rule = List.range' start is.length := by
  induction is generalizing start with
  | nil => exact iff_of_true rfl rfl
  | cons i is ih =>
      obtain ⟨hi, his⟩ := List.forall_mem_cons.mp h
      rw [numbered_cons, List.zip_cons_cons, List.all_cons, Bool.and_eq_true,
        hi.renumbered_agrees_iff, ih his, List.map_cons, List.length_cons, List.range'_succ,
        List.cons.injEq]

/-- The search looks at ends only, so numbering does not change how values are classified. -/
theorem classify_numbered {p q : LabelPartition}
    (h : q.intervals.toList = numbered 0 p.intervals.toList) (v : Binary64) :
    q.classify v = p.classify v := by
  have hget : ∀ k, q.intervals[k]? = p.intervals[k]?.map fun i : Interval =>
      { i with rule := 0 + k } := by
    intro k
    rw [← Array.getElem?_toList, h, getElem?_numbered, Array.getElem?_toList]
  exact classify_congr hget v

/-! ## Compiling in ascending order -/

/-- Rules and their positions determine the intervals that carry them. -/
theorem CarryAll.unique {start : Nat} {rules : List LabelingRule} {is js : List Interval}
    (his : CarryAll start rules is) (hjs : CarryAll start rules js) : is = js := by
  induction rules generalizing start is js with
  | nil =>
      cases his
      cases hjs
      rfl
  | cons r rules ih =>
      cases his with
      | cons hi his =>
        cases hjs with
        | cons hj hjs => rw [hi.1.unique hj.1 (hi.2.trans hj.2.symm), ih his hjs]

/-- **Rules whose intervals tile the line as they stand compile to these intervals.** -/
theorem compile_of_tiling {rules : List LabelingRule} {is : List Interval}
    (hcarry : CarryAll 0 rules is) (h : Tiling (Cut.before ⊥) is (Cut.after ⊤)) :
    compile rules = .ok ⟨is.toArray⟩ := by
  have hproper := hcarry.proper
  have hlt : ∀ i ∈ is, i.lowerCut < i.upperCut := fun i hi => h.lowerCut_lt_upperCut hi
  have hempty : ∀ i ∈ is, i.isEmpty = false := fun i hi =>
    isEmpty_eq_false_of_tiling hproper h hi (hlt i hi)
  have hsorted : is.Pairwise fun a b => a.startsFirst b = true := by
    refine h.pairwise.imp_of_mem fun {a b} ha hb hab => ?_
    exact (Interval.startsFirst_iff (hproper a ha) (hproper b hb)).mpr ((hlt a ha).le.trans hab)
  refine compile_eq_ok_iff.mpr ⟨is, intervalsFrom_eq_ok_iff_carryAll.mpr ⟨hcarry, hempty⟩, ?_, ?_⟩
  · rw [List.mergeSort_of_pairwise hsorted]
    exact (defect?_eq_none_iff hproper hlt).mpr h
  · rw [List.mergeSort_of_pairwise hsorted]

/-- **The normalized rules of a partition compile to its intervals, numbered in their order.** -/
theorem compile_rules_eq {rules : List LabelingRule} {p : LabelPartition}
    (h : compile rules = .ok p) :
    compile p.rules = .ok ⟨(numbered 0 p.intervals.toList).toArray⟩ := by
  obtain ⟨-, -, -, htiling⟩ := exists_tiling_of_compile h
  exact compile_of_tiling (carryAll_numbered (proper_of_compile h) 0) (tiling_numbered htiling 0)

/-! ## Rules in ascending order -/

/-- **Rules in ascending order**: the points of each lie below those of every later one. -/
def Ascending (rules : List LabelingRule) : Prop :=
  ∃ sets : List (Set EReal), List.Forall₂ LabelingRule.Denotes rules sets ∧
    sets.Pairwise fun s t => ∀ x ∈ s, ∀ y ∈ t, x < y

/-- **The intervals of a partition have their places as rules exactly when the rules were given in
ascending order.** -/
theorem map_rule_eq_range_iff {rules : List LabelingRule} {p : LabelPartition}
    (h : compile rules = .ok p) :
    p.intervals.toList.map Interval.rule = List.range p.size ↔ Ascending rules := by
  obtain ⟨is, hcarry, hperm, htiling⟩ := exists_tiling_of_compile h
  have hrules : is.map Interval.rule = List.range is.length := by
    rw [hcarry.map_rule, List.range_eq_range']
    congr 1
    simpa using congrArg List.length hcarry.map_rule.symm
  have hbelow : p.intervals.toList.Pairwise fun a b => ∀ x ∈ a.points, ∀ y ∈ b.points, x < y :=
    htiling.pairwise.imp fun hab x hx y hy => Interval.lt_of_mem_points hab hx hy
  constructor
  · intro hnumbered
    -- numbered alike, the intervals stand as their rules do
    have hsame : p.intervals.toList = is := by
      have hlt : ∀ {js : List Interval} {n : Nat}, js.map Interval.rule = List.range n →
          js.Pairwise fun a b => a.rule < b.rule := by
        intro js n hjs
        exact List.pairwise_map.mp (hjs ▸ List.pairwise_lt_range)
      exact hperm.eq_of_pairwise (fun a b _ _ hab hba => absurd hab hba.not_gt) (hlt hnumbered)
        (hlt hrules)
    exact ⟨is.map Interval.points, hcarry.denotes, List.pairwise_map.mpr (hsame ▸ hbelow)⟩
  · rintro ⟨sets, hdenotes, hascending⟩
    obtain ⟨js, hjs, rfl⟩ := exists_carryAll hdenotes 0
    rw [hjs.unique hcarry] at hascending
    -- both lists of intervals ascend, and none is empty
    have hsame : p.intervals.toList = is := by
      refine hperm.eq_of_pairwise (fun a b ha hb hab hba => ?_) hbelow
        (List.pairwise_map.mp hascending)
      obtain ⟨x, hx⟩ := (Interval.points_nonempty_iff a).mpr (htiling.lowerCut_lt_upperCut ha)
      obtain ⟨y, hy⟩ := (Interval.points_nonempty_iff b).mpr
        (htiling.lowerCut_lt_upperCut (hperm.mem_iff.mpr hb))
      exact absurd (hab x hx y hy) (hba y hy x hx).not_gt
    rw [hsame, hrules, size, ← Array.length_toList, hsame]

/-- **The normalized rules are a normal form of a compiled partition.** They compile, to the same
intervals in the same order, numbered by their places; their partition has the same normalized rules
and classifies every value alike; and it equals the first one exactly when the rules of that were
given in ascending order. -/
theorem compile_normalized_rules {rules : List LabelingRule} {p : LabelPartition}
    (h : compile rules = .ok p) :
    ∃ q, compile p.rules = .ok q ∧
      q.intervals.toList = p.intervals.toList.mapIdx (fun place i => { i with rule := place }) ∧
      q.rules = p.rules ∧ (∀ v, q.classify v = p.classify v) ∧
      (q.agrees p = true ↔ Ascending rules) := by
  have hproper := proper_of_compile h
  refine ⟨_, compile_rules_eq h, ?_, map_toRule_numbered 0 _, classify_numbered rfl, ?_⟩
  · rw [List.mapIdx_eq_zipIdx_map]
    rfl
  · have hsize : LabelPartition.size ⟨(numbered 0 p.intervals.toList).toArray⟩ = p.size := by
      rw [size, size, numbered, List.size_toArray, List.length_map, List.length_zipIdx,
        Array.length_toList]
    rw [agrees, hsize, beq_self_eq_true, Bool.true_and, all_numbered_agrees_iff hproper,
      ← map_rule_eq_range_iff h, List.range_eq_range', Array.length_toList, size]

/-- Unsorted rules with a single point under four spellings have a normal form. -/
theorem normal_form_around_tenth : ∃ p, compile [⟨"(", "1e-1", "inf", ")", "above"⟩,
    ⟨"[", ".1", "+0.10", "]", "exact"⟩, ⟨"(", " -inf", "0.1", ")", "below"⟩] = .ok p ∧
    ∃ q, compile p.rules = .ok q ∧
      q.intervals.toList = p.intervals.toList.mapIdx (fun place i => { i with rule := place }) ∧
      q.rules = p.rules ∧ (∀ v, q.classify v = p.classify v) ∧
      (q.agrees p = true ↔ Ascending [⟨"(", "1e-1", "inf", ")", "above"⟩,
        ⟨"[", ".1", "+0.10", "]", "exact"⟩, ⟨"(", " -inf", "0.1", ")", "below"⟩]) := by
  have h : ∃ p, compile [⟨"(", "1e-1", "inf", ")", "above"⟩, ⟨"[", ".1", "+0.10", "]", "exact"⟩,
      ⟨"(", " -inf", "0.1", ")", "below"⟩] = .ok p := by
    rw [compile_eq_insertion]
    decide +kernel
  obtain ⟨p, h⟩ := h
  exact ⟨p, h, compile_normalized_rules h⟩

end LabelPartition

end CubeAssessment
