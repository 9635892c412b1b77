import CubeAssessment.Proofs.Schema.Hierarchy
import Mathlib.Data.List.Range

/-! # Indices of levels in any order

Levels make up a hierarchy exactly when their indices are `0, …, n - 1`, each once
(`exists_ofLevels_eq_ok_iff`). Otherwise the pair in the error tells where the indices break off
(`BreaksOff`, `ofLevels_eq_nonContiguous_iff`): the index of that place is missing and a larger one
found, or the index before it occurs once more. Indices break off at one place only
(`BreaksOff.unique`), wherever they stand in the list, so the order in which levels are given
decides neither the hierarchy nor the error. -/

namespace CubeAssessment.Hierarchy

/-! ## Where indices break off -/

/-- **Indices break off at a place**: every index below `expected` occurs, and in its place stands
`found`, the next larger index, `expected` itself being missing, or the index before it once
more. -/
structure BreaksOff (indices : List Nat) (expected found : Nat) : Prop where
  /-- There are enough indices to reach the place. -/
  lt_length : expected < indices.length
  /-- Every index below the place occurs. -/
  mem_of_lt : ∀ i < expected, i ∈ indices
  /-- An index below the place and below what is found there occurs once. -/
  count_of_lt : ∀ i < expected, i < found → indices.count i = 1
  /-- The index of the place is missing, or the one before it is repeated. -/
  gap_or_repeated : expected < found ∧ expected ∉ indices ∧ found ∈ indices ∧
      (∀ i ∈ indices, expected < i → found ≤ i) ∨
    found + 1 = expected ∧ 2 ≤ indices.count found

variable {indices indices' : List Nat} {expected found expected' found' : Nat}

/-- Where indices break off does not depend on their order. -/
theorem BreaksOff.perm (h : BreaksOff indices expected found) (hperm : indices.Perm indices') :
    BreaksOff indices' expected found where
  lt_length := hperm.length_eq ▸ h.lt_length
  mem_of_lt := fun i hi => hperm.mem_iff.mp (h.mem_of_lt i hi)
  count_of_lt := fun i hi hfound => hperm.count_eq i ▸ h.count_of_lt i hi hfound
  gap_or_repeated := by
    have hgap := h.gap_or_repeated
    simp only [hperm.mem_iff, hperm.count_eq] at hgap
    exact hgap

/-- Indices do not break off below a place up to which they occur and before which none is
repeated. -/
theorem BreaksOff.le (h : BreaksOff indices expected found)
    (h' : BreaksOff indices expected' found') : expected ≤ expected' := by
  by_contra hlt
  rcases h'.gap_or_repeated with ⟨-, hmissing, -⟩ | ⟨hfound', htwice⟩
  · exact hmissing (h.mem_of_lt expected' (by omega))
  · -- the repeated index stands below the other place, where indices occur once
    have honce : indices.count found' = 1 := by
      apply h.count_of_lt found' (by omega)
      rcases h.gap_or_repeated with ⟨hgap, -⟩ | ⟨hfound, -⟩
      · omega
      · omega
    omega

/-- **Indices break off at one place only**, and there is one thing to find there. -/
theorem BreaksOff.unique (h : BreaksOff indices expected found)
    (h' : BreaksOff indices expected' found') : expected = expected' ∧ found = found' := by
  have hplace : expected = expected' := le_antisymm (h.le h') (h'.le h)
  subst hplace
  refine ⟨rfl, ?_⟩
  rcases h.gap_or_repeated with ⟨hgap, hmissing, hmem, hleast⟩ | ⟨hfound, htwice⟩
  · rcases h'.gap_or_repeated with ⟨hgap', -, hmem', hleast'⟩ | ⟨hfound', htwice'⟩
    · exact le_antisymm (hleast found' hmem' hgap') (hleast' found hmem hgap)
    · -- an index repeated before the place would stand below `found`
      have honce := h.count_of_lt found' (by omega) (by omega)
      omega
  · rcases h'.gap_or_repeated with ⟨hgap', -⟩ | ⟨hfound', -⟩
    · have honce := h'.count_of_lt found (by omega) (by omega)
      omega
    · omega

/-- Indices that are counted off do not break off. -/
theorem not_breaksOff_of_perm_range (hperm : indices.Perm (List.range indices.length)) :
    ¬ BreaksOff indices expected found := by
  intro h
  rcases h.gap_or_repeated with ⟨-, hmissing, -⟩ | ⟨-, htwice⟩
  · exact hmissing (hperm.mem_iff.mpr (List.mem_range.mpr h.lt_length))
  · have honce : indices.count found ≤ 1 :=
      List.nodup_iff_count_le_one.mp (hperm.nodup_iff.mpr List.nodup_range) found
    omega

/-- **Sorted indices break off at the first place that has another index.** -/
theorem breaksOff_of_sorted {rest : List Nat} (hne : found ≠ expected)
    (hsorted : (List.range expected ++ found :: rest).Pairwise (· ≤ ·)) :
    BreaksOff (List.range expected ++ found :: rest) expected found := by
  obtain ⟨-, htail, hbelow⟩ := List.pairwise_append.mp hsorted
  have hrest : ∀ i ∈ found :: rest, found ≤ i := by
    intro i hi
    rcases List.mem_cons.mp hi with rfl | hi
    · exact le_rfl
    · exact (List.pairwise_cons.mp htail).1 i hi
  -- the index before the place is no larger than what is found there
  have hnear : expected ≤ found + 1 := by
    by_contra hfar
    have hbefore := hbelow (found + 1) (List.mem_range.mpr (by omega)) found List.mem_cons_self
    omega
  refine ⟨?_, fun i hi => ?_, fun i hi hfound => ?_, ?_⟩
  · rw [List.length_append, List.length_range, List.length_cons]
    omega
  · exact List.mem_append_left _ (List.mem_range.mpr hi)
  · have hlater : i ∉ found :: rest := fun hmem => by
      have hle := hrest i hmem
      omega
    rw [List.count_append, List.count_eq_zero_of_not_mem hlater,
      List.count_eq_one_of_mem List.nodup_range (List.mem_range.mpr hi)]
  · by_cases hgap : expected < found
    · refine Or.inl ⟨hgap, fun hmem => ?_, List.mem_append_right _ List.mem_cons_self, ?_⟩
      · rcases List.mem_append.mp hmem with hmem | hmem
        · exact lt_irrefl _ (List.mem_range.mp hmem)
        · have hle := hrest expected hmem
          omega
      · intro i hi hlarger
        rcases List.mem_append.mp hi with hi | hi
        · have hsmall := List.mem_range.mp hi
          omega
        · exact hrest i hi
    · have hfound : found + 1 = expected := by omega
      refine Or.inr ⟨hfound, ?_⟩
      have honce := List.count_eq_one_of_mem List.nodup_range
        (List.mem_range.mpr (show found < expected by omega))
      rw [List.count_append, honce, List.count_cons_self]
      omega

/-! ## What becomes of levels -/

variable {levels levels' : List Level}

/-- The first misplaced level is the one behind those whose indices are counted off. -/
theorem exists_of_firstMisplaced {start : Nat}
    (h : firstMisplaced start levels = some (expected, found)) :
    ∃ count rest, levels.map Level.index = List.range' start count ++ found :: rest ∧
      expected = start + count ∧ found ≠ expected := by
  induction levels generalizing start with
  | nil => cases h
  | cons first others ih =>
    rw [firstMisplaced] at h
    by_cases hfirst : first.index = start
    · rw [if_pos hfirst] at h
      obtain ⟨count, rest, hothers, hexpected, hne⟩ := ih h
      refine ⟨count + 1, rest, ?_, by omega, hne⟩
      rw [List.map_cons, hothers, hfirst, List.range'_succ, List.cons_append]
    · rw [if_neg hfirst] at h
      cases h
      exact ⟨0, others.map Level.index, rfl, rfl, hfirst⟩

/-- Levels fail to make up a hierarchy when there are none or their indices break off. -/
theorem of_ofLevels_eq_error {e : SchemaError} (h : ofLevels levels = .error e) :
    levels = [] ∧ e = .emptyHierarchy ∨
      ∃ expected found, BreaksOff (levels.map Level.index) expected found ∧
        e = .nonContiguousLevels expected found := by
  have hperm := List.mergeSort_perm levels fun a b => decide (a.index ≤ b.index)
  have hsorted := pairwise_mergeSort_index levels
  unfold ofLevels at h
  dsimp only at h
  generalize levels.mergeSort (fun a b => decide (a.index ≤ b.index)) = sorted at h hperm hsorted
  split at h
  · next expected found hmisplaced =>
    cases h
    obtain ⟨count, rest, hindices, hexpected, hne⟩ := exists_of_firstMisplaced hmisplaced
    rw [Nat.zero_add] at hexpected
    subst hexpected
    have hascending : (sorted.map Level.index).Pairwise (· ≤ ·) :=
      List.pairwise_map.mpr (hsorted.imp of_decide_eq_true)
    rw [hindices, ← List.range_eq_range'] at hascending
    have hbreaks := breaksOff_of_sorted hne hascending
    rw [List.range_eq_range', ← hindices] at hbreaks
    exact Or.inr ⟨_, _, hbreaks.perm (hperm.map Level.index), rfl⟩
  · obtain ⟨hnil, rfl⟩ := linear_eq_error_iff.mp h
    rw [List.map_eq_nil_iff.mp hnil] at hperm
    exact Or.inl ⟨hperm.symm.eq_nil, rfl⟩

/-- The indices of a hierarchy's levels are counted off. -/
theorem map_index_levels (h : Hierarchy) :
    h.levels.map Level.index = List.range h.levels.length := by
  refine List.ext_getElem (by simp) fun i hi hi' => ?_
  rw [List.getElem_map, List.getElem_range]
  exact index_of_getElem?_levels (List.getElem?_eq_getElem _)

/-- The indices of levels that make up a hierarchy are counted off, and there are some. -/
theorem perm_range_of_ofLevels {h : Hierarchy} (hok : ofLevels levels = .ok h) :
    levels ≠ [] ∧ (levels.map Level.index).Perm (List.range levels.length) := by
  have hperm : h.levels.Perm levels := ofLevels_eq_ok_iff.mp hok
  constructor
  · rintro rfl
    exact h.levels_ne_nil hperm.eq_nil
  · rw [← hperm.length_eq, ← map_index_levels]
    exact (hperm.map Level.index).symm

/-- **Levels make up a hierarchy exactly when there are some and their indices are counted off**, in
any order. -/
theorem exists_ofLevels_eq_ok_iff : (∃ h, ofLevels levels = .ok h) ↔
    levels ≠ [] ∧ (levels.map Level.index).Perm (List.range levels.length) := by
  constructor
  · rintro ⟨h, hok⟩
    exact perm_range_of_ofLevels hok
  · rintro ⟨hne, hperm⟩
    cases hlevels : ofLevels levels with
    | ok h => exact ⟨h, rfl⟩
    | error e =>
      rcases of_ofLevels_eq_error hlevels with ⟨hnil, -⟩ | ⟨expected, found, hbreaks, -⟩
      · exact absurd hnil hne
      · rw [← List.length_map (f := Level.index)] at hperm
        exact absurd hbreaks (not_breaksOff_of_perm_range hperm)

/-- **There is nothing to make a hierarchy of exactly when there are no levels.** -/
theorem ofLevels_eq_emptyHierarchy_iff :
    ofLevels levels = .error .emptyHierarchy ↔ levels = [] := by
  constructor
  · intro herror
    rcases of_ofLevels_eq_error herror with ⟨hnil, -⟩ | ⟨expected, found, -, heq⟩
    · exact hnil
    · cases heq
  · rintro rfl
    simp [ofLevels, firstMisplaced, linear]

/-- **The pair in the error is where the indices break off.** -/
theorem ofLevels_eq_nonContiguous_iff :
    ofLevels levels = .error (.nonContiguousLevels expected found) ↔
      BreaksOff (levels.map Level.index) expected found := by
  constructor
  · intro herror
    rcases of_ofLevels_eq_error herror with ⟨-, heq⟩ | ⟨expected', found', hbreaks, heq⟩
    · cases heq
    · cases heq
      exact hbreaks
  · intro hbreaks
    cases hlevels : ofLevels levels with
    | ok h =>
      have hperm := (perm_range_of_ofLevels hlevels).2
      rw [← List.length_map (f := Level.index)] at hperm
      exact absurd hbreaks (not_breaksOff_of_perm_range hperm)
    | error e =>
      rcases of_ofLevels_eq_error hlevels with ⟨rfl, -⟩ | ⟨expected', found', hbreaks', rfl⟩
      · exact absurd hbreaks.lt_length (Nat.not_lt_zero _)
      · obtain ⟨rfl, rfl⟩ := hbreaks.unique hbreaks'
        rfl

/-- **The order in which levels are given decides nothing**, neither about the hierarchy nor about
the error. -/
theorem ofLevels_eq_of_perm (hperm : levels.Perm levels') : ofLevels levels' = ofLevels levels := by
  cases hlevels : ofLevels levels with
  | ok h => exact ofLevels_eq_ok_iff.mpr ((ofLevels_eq_ok_iff.mp hlevels).trans hperm)
  | error e =>
    rcases of_ofLevels_eq_error hlevels with ⟨rfl, rfl⟩ | ⟨expected, found, hbreaks, rfl⟩
    · exact ofLevels_eq_emptyHierarchy_iff.mpr hperm.symm.eq_nil
    · exact ofLevels_eq_nonContiguous_iff.mpr (hbreaks.perm (hperm.map Level.index))

/-- **What becomes of a list of levels.** Without levels there is no hierarchy; levels whose indices
are `0, …, n - 1`, each once, make up the hierarchy that holds them, each at the place of its index;
any others are refused with the place at which their indices break off. The order of the list
changes none of this. -/
theorem ofLevels_cases (levels : List Level) :
    (ofLevels levels = .error .emptyHierarchy ↔ levels = []) ∧
    ((∃ h, ofLevels levels = .ok h) ↔
      levels ≠ [] ∧ (levels.map Level.index).Perm (List.range levels.length)) ∧
    (∀ h, ofLevels levels = .ok h → h.levels.Perm levels ∧
      ∀ (i : Nat) (level : Level), h.levels[i]? = some level → level.index = i) ∧
    (levels ≠ [] → ¬ (levels.map Level.index).Perm (List.range levels.length) →
      ∃ expected found, ofLevels levels = .error (.nonContiguousLevels expected found)) ∧
    (∀ expected found, ofLevels levels = .error (.nonContiguousLevels expected found) ↔
      BreaksOff (levels.map Level.index) expected found) ∧
    ∀ levels', levels.Perm levels' → ofLevels levels' = ofLevels levels := by
  refine ⟨ofLevels_eq_emptyHierarchy_iff, exists_ofLevels_eq_ok_iff, fun h hok =>
    ⟨ofLevels_eq_ok_iff.mp hok, fun i level => index_of_getElem?_levels⟩, fun hne hperm => ?_,
    fun expected found => ofLevels_eq_nonContiguous_iff, fun levels' => ofLevels_eq_of_perm⟩
  cases hlevels : ofLevels levels with
  | ok h => exact absurd (perm_range_of_ofLevels hlevels).2 hperm
  | error e =>
    rcases of_ofLevels_eq_error hlevels with ⟨hnil, -⟩ | ⟨expected, found, -, rfl⟩
    · exact absurd hnil hne
    · exact ⟨expected, found, rfl⟩

/-- Three levels without one of index 1, of which two share the index 2: given in another order,
they are still refused with index 2 found at place 1. -/
theorem ofLevels_without_city :
    (∃ expected found, ofLevels [⟨2, "country"⟩, ⟨0, "store"⟩, ⟨2, "nation"⟩] =
      .error (.nonContiguousLevels expected found)) ∧
    BreaksOff [2, 0, 2] 1 2 ∧
    ofLevels [⟨2, "nation"⟩, ⟨2, "country"⟩, ⟨0, "store"⟩] = .error (.nonContiguousLevels 1 2) := by
  obtain ⟨-, -, -, hrefused, hplace, horder⟩ :=
    ofLevels_cases [⟨2, "country"⟩, ⟨0, "store"⟩, ⟨2, "nation"⟩]
  have hbreaks : BreaksOff [2, 0, 2] 1 2 := ⟨by decide, by decide, by decide, by decide⟩
  refine ⟨hrefused (by decide) (by decide), hbreaks, ?_⟩
  rw [horder _ (by decide)]
  exact (hplace 1 2).mpr hbreaks

end CubeAssessment.Hierarchy
