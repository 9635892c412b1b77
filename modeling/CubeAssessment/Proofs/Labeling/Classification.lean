import CubeAssessment.Proofs.Labeling.Cover

/-! # Classification

A compiled partition looks a number up by binary search. On a tiling the search is right: the
intervals that end before a number are those in front of the one that contains it
(`position_eq_of_contains`), so the search stops exactly there. -/

namespace CubeAssessment

/-! ## Binary search -/

/-- **The search finds the index up to which the test holds.** -/
theorem firstFailing_eq {test : Nat → Bool} {lo hi k : Nat} (hlo : lo ≤ k) (hhi : k ≤ hi)
    (htest : ∀ j, lo ≤ j → j < hi → (test j = true ↔ j < k)) : firstFailing test lo hi = k := by
  induction lo, hi using firstFailing.induct test with
  | case1 lo hi hlt middle hmiddle ih =>
      have hk : middle < k := (htest middle (by omega) (by omega)).mp hmiddle
      rw [firstFailing, if_pos hlt]
      exact (if_pos hmiddle).trans (ih hk hhi fun j hj => htest j (by omega))
  | case2 lo hi hlt middle hmiddle ih =>
      have hk : k ≤ middle := Nat.le_of_not_lt fun h =>
        hmiddle ((htest middle (by omega) (by omega)).mpr h)
      rw [firstFailing, if_pos hlt]
      exact (if_neg hmiddle).trans (ih hlo hk fun j hj hj' => htest j hj (by omega))
  | case3 lo hi hge =>
      rw [firstFailing, if_neg hge]
      omega

namespace Interval

/-- No interval contains NaN. -/
theorem contains_nan (i : Interval) : i.contains .nan = false := by
  rw [contains, Binary64.below_nan, Binary64.nan_equals, Bool.false_and, Bool.false_or,
    Bool.false_and]

/-- An interval contains numbers only. -/
theorem ne_nan_of_contains {i : Interval} {v : Binary64} (h : i.contains v = true) : v ≠ .nan := by
  rintro rfl
  rw [contains_nan] at h
  cases h

end Interval

namespace LabelPartition

variable {p : LabelPartition}

/-! ## The interval of a number -/

/-- **The search stops at the interval that contains the number.** -/
theorem position_eq_of_contains (hproper : ∀ i ∈ p.intervals.toList, i.Proper)
    (h : Tiling (Cut.before ⊥) p.intervals.toList (Cut.after ⊤)) {v : Binary64} {k : Nat}
    {i : Interval} (hk : p.intervals.toList[k]? = some i) (hi : i.contains v = true) :
    p.position v = k := by
  have hv := Interval.ne_nan_of_contains hi
  obtain ⟨hlower, hupper⟩ :=
    (Interval.contains_iff (hproper i (List.mem_of_getElem? hk)) hv).mp hi
  have hksize : k < p.size := (List.getElem?_eq_some_iff.mp hk).1
  refine firstFailing_eq (Nat.zero_le k) hksize.le fun j _ hj => ?_
  obtain ⟨a, ha⟩ : ∃ a, p.intervals.toList[j]? = some a := ⟨_, List.getElem?_eq_getElem hj⟩
  have hamem : a ∈ p.intervals.toList := List.mem_of_getElem? ha
  rw [← Array.getElem?_toList, ha, Option.any_some, Interval.endsBefore_iff (hproper a hamem) hv]
  -- `a` ends before the number exactly when it stands in front of `i`
  constructor
  · intro hends
    by_contra hjk
    rcases (Nat.le_of_not_lt hjk).eq_or_lt with rfl | hkj
    · cases hk.symm.trans ha
      exact absurd hends (not_le.mpr hupper)
    · have hends' : i.upperCut ≤ Cut.before v.toEReal :=
        (h.upperCut_le_lowerCut hk ha hkj).trans ((h.lowerCut_lt_upperCut hamem).le.trans hends)
      exact absurd hends' (not_le.mpr hupper)
  · intro hjk
    exact (h.upperCut_le_lowerCut ha hk hjk).trans hlower

/-- Every number lies in an interval of a tiling of the whole line. -/
theorem exists_contains (hproper : ∀ i ∈ p.intervals.toList, i.Proper)
    (h : Tiling (Cut.before ⊥) p.intervals.toList (Cut.after ⊤)) {v : Binary64} (hv : v ≠ .nan) :
    ∃ (k : Nat) (i : Interval), p.intervals.toList[k]? = some i ∧ i.contains v = true := by
  obtain ⟨k, i, hk, hlower, hupper⟩ := h.exists_getElem? (Cut.before_bot_le (Cut.before v.toEReal))
    (Cut.before_lt_after.mpr le_top)
  have hi : i.Proper := hproper i (List.mem_of_getElem? hk)
  exact ⟨k, i, hk, (Interval.contains_iff hi hv).mpr ⟨hlower, hupper⟩⟩

/-- **Larger numbers are found in later intervals.** -/
theorem position_le_position (hproper : ∀ i ∈ p.intervals.toList, i.Proper)
    (h : Tiling (Cut.before ⊥) p.intervals.toList (Cut.after ⊤)) {u v : Binary64} (hu : u ≠ .nan)
    (hv : v ≠ .nan) (huv : u.toEReal ≤ v.toEReal) : p.position u ≤ p.position v := by
  obtain ⟨k, i, hk, hi⟩ := exists_contains hproper h hu
  obtain ⟨l, j, hl, hj⟩ := exists_contains hproper h hv
  rw [position_eq_of_contains hproper h hk hi, position_eq_of_contains hproper h hl hj]
  by_contra hkl
  -- were `v` found first, its interval would end before the one of `u` starts
  have hends : j.upperCut ≤ i.lowerCut := h.upperCut_le_lowerCut hl hk (not_le.mp hkl)
  have hstarts : i.lowerCut ≤ Cut.before u.toEReal :=
    ((Interval.contains_iff (hproper i (List.mem_of_getElem? hk)) hu).mp hi).1
  have hupper : Cut.before v.toEReal < j.upperCut :=
    ((Interval.contains_iff (hproper j (List.mem_of_getElem? hl)) hv).mp hj).2
  exact absurd ((hends.trans hstarts).trans (Cut.before_le_before.mpr huv)) (not_le.mpr hupper)

/-! ## Total and unambiguous classification -/

/-- **A partition classifies** every number by the one interval that contains it, refuses NaN alone,
and keeps the order of numbers. -/
structure Classifies (p : LabelPartition) : Prop where
  /-- The search for a number stops at an interval that contains it, and answers with its label. -/
  contains_position : ∀ v : Binary64, v ≠ .nan → ∃ i, p.intervals[p.position v]? = some i ∧
    i.contains v = true ∧ p.classify v = .ok i.label
  /-- No other interval contains the number. -/
  eq_position : ∀ (v : Binary64) (k : Nat) (i : Interval), p.intervals[k]? = some i →
    i.contains v = true → k = p.position v
  /-- No interval contains NaN. -/
  contains_nan : ∀ i ∈ p.intervals, i.contains .nan = false
  /-- A value is refused exactly when it is NaN, and then as out of range. -/
  classify_eq_error_iff : ∀ (v : Binary64) (e : LabelingError), p.classify v = .error e ↔
    v = .nan ∧ e = .outOfRange v
  /-- The interval of a number does not stand after that of a larger or equal one. -/
  position_le_position : ∀ u v : Binary64, u.below v = true ∨ u.equals v = true →
    p.position u ≤ p.position v

/-- NaN is refused as out of range. -/
@[simp] theorem classify_nan (p : LabelPartition) : p.classify .nan = .error (.outOfRange .nan) :=
  rfl

/-- A number gets the label of the interval at which the search stops. -/
theorem classify_of_getElem? {v : Binary64} (hv : v ≠ .nan) {i : Interval}
    (hi : p.intervals[p.position v]? = some i) : p.classify v = .ok i.label := by
  match v, hv with
  | .signed negative m, _ =>
      rw [classify, hi]
      rfl

/-- **Labels do not depend on how the rules are counted**: the search looks at ends only. -/
theorem classify_congr {q : LabelPartition} {number : Nat → Interval → Nat}
    (h : ∀ k, q.intervals[k]? = p.intervals[k]?.map fun i : Interval =>
      { i with rule := number k i }) (v : Binary64) : q.classify v = p.classify v := by
  have hsize : q.size = p.size := by
    refine eq_of_forall_ge_iff fun k => ?_
    rw [size, size, ← Array.getElem?_eq_none_iff, ← Array.getElem?_eq_none_iff, h,
      Option.map_eq_none_iff]
  have hposition : q.position v = p.position v := by
    rw [position, position, hsize]
    congr 1
    funext k
    rw [h, Option.any_map]
    rfl
  rw [classify, classify, hposition, h]
  cases p.intervals[p.position v]? with
  | none => rfl
  | some i => rfl

/-- A partition whose intervals tile the line classifies. -/
theorem classifies_of_tiling (hproper : ∀ i ∈ p.intervals.toList, i.Proper)
    (h : Tiling (Cut.before ⊥) p.intervals.toList (Cut.after ⊤)) : p.Classifies := by
  have hfound : ∀ v : Binary64, v ≠ .nan → ∃ i, p.intervals[p.position v]? = some i ∧
      i.contains v = true ∧ p.classify v = .ok i.label := by
    intro v hv
    obtain ⟨k, i, hk, hi⟩ := exists_contains hproper h hv
    have hposition : p.intervals[p.position v]? = some i := by
      rw [position_eq_of_contains hproper h hk hi, ← Array.getElem?_toList, hk]
    exact ⟨i, hposition, hi, classify_of_getElem? hv hposition⟩
  refine ⟨hfound, ?_, fun i _ => i.contains_nan, ?_, ?_⟩
  · intro v k i hk hi
    rw [← Array.getElem?_toList] at hk
    exact (position_eq_of_contains hproper h hk hi).symm
  · intro v e
    by_cases hv : v = .nan
    · subst hv
      rw [classify_nan, Except.error.injEq, eq_comm, and_iff_right rfl]
    · -- a number is found, hence not refused
      obtain ⟨i, -, -, hok⟩ := hfound v hv
      rw [hok]
      exact iff_of_false nofun fun h => hv h.1
  · intro u v huv
    obtain ⟨hu, hv, hle⟩ := Binary64.toEReal_le_of_below_or_equals huv
    exact position_le_position hproper h hu hv hle

/-- **Every compiled partition classifies**: each number by the label of the one interval that
contains it, so that NaN alone is out of range. -/
theorem classifies_of_compile {rules : List LabelingRule} (h : compile rules = .ok p) :
    p.Classifies := by
  obtain ⟨is, hcarry, hperm, htiling⟩ := exists_tiling_of_compile h
  exact classifies_of_tiling (fun i hi => hcarry.proper i (hperm.mem_iff.mp hi)) htiling

/-- The rules for above, at and below zero classify; zero is a single point under two spellings. -/
theorem classifies_around_zero : ∃ p, compile [⟨"(", "0", "inf", ")", "above"⟩,
    ⟨"[", "-0", "0", "]", "zero"⟩, ⟨"(", "-inf", "0", ")", "below"⟩] = .ok p ∧ p.Classifies := by
  have h : ∃ p, compile [⟨"(", "0", "inf", ")", "above"⟩, ⟨"[", "-0", "0", "]", "zero"⟩,
      ⟨"(", "-inf", "0", ")", "below"⟩] = .ok p := by
    rw [compile_eq_insertion]
    decide +kernel
  obtain ⟨p, h⟩ := h
  exact ⟨p, h, classifies_of_compile h⟩

end LabelPartition

end CubeAssessment
