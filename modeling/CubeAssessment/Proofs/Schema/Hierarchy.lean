import CubeAssessment.Proofs.Denotation
import Mathlib.Data.List.Sort

/-! # Hierarchies of levels given in any order

A list of explicitly indexed levels makes up a hierarchy exactly when it is a permutation of the
hierarchy's levels, each of which has its place as its index (`ofLevels_eq_ok_iff`). Level names in
order are the case in which the indices are counted off (`linear_eq_ok_iff_levels`,
`linear_eq_ofLevels`), and only an empty row of names makes up no hierarchy
(`linear_eq_error_iff`). -/

namespace CubeAssessment.Hierarchy

variable {h : Hierarchy}

/-! ## The levels of a hierarchy -/

/-- The level at a place has the name there and the place as its index. -/
theorem getElem?_levels (h : Hierarchy) (i : Nat) :
    h.levels[i]? = h.names[i]?.map fun name => ⟨i, name⟩ := by
  rw [levels, List.getElem?_mapIdx]

/-- **The index of a level is its place.** -/
theorem index_of_getElem?_levels {i : Nat} {level : Level} (hlevel : h.levels[i]? = some level) :
    level.index = i := by
  rw [getElem?_levels, Option.map_eq_some_iff] at hlevel
  obtain ⟨name, -, rfl⟩ := hlevel
  rfl

/-- **A hierarchy has a finest level**, of index 0. -/
theorem getElem?_levels_zero (h : Hierarchy) : h.levels[0]? = some ⟨0, h.finest⟩ := by
  rw [getElem?_levels]
  rfl

/-- The names of the levels are the level names. -/
theorem map_name_levels (h : Hierarchy) : h.levels.map Level.name = h.names := by
  refine List.ext_getElem? fun i => ?_
  rw [List.getElem?_map, getElem?_levels, Option.map_map]
  exact congrFun Option.map_id _

/-- A hierarchy is determined by its level names. -/
theorem eq_of_names_eq {h' : Hierarchy} (hnames : h.names = h'.names) : h = h' := by
  cases h
  cases h'
  obtain ⟨rfl, rfl⟩ := List.cons.inj hnames
  rfl

/-- The indices of the levels ascend. -/
theorem pairwise_index_levels (h : Hierarchy) :
    h.levels.Pairwise fun a b => a.index < b.index := by
  rw [List.pairwise_iff_getElem]
  intro i j hi hj hlt
  rw [index_of_getElem?_levels (List.getElem?_eq_getElem hi),
    index_of_getElem?_levels (List.getElem?_eq_getElem hj)]
  exact hlt

/-- A hierarchy has one level of an index. -/
theorem eq_of_index_eq {a b : Level} (ha : a ∈ h.levels) (hb : b ∈ h.levels)
    (hindex : a.index = b.index) : a = b := by
  have hname : some a.name = some b.name := by
    rw [← mem_levels_iff.mp ha, ← mem_levels_iff.mp hb, hindex]
  cases a
  cases b
  cases hindex
  cases hname
  rfl

/-! ## Level names in order -/

/-- Level names in order make up the hierarchy that has them. -/
theorem linear_eq_ok_iff {levelNames : List String} :
    linear levelNames = .ok h ↔ h.names = levelNames := by
  cases levelNames with
  | nil => exact iff_of_false nofun nofun
  | cons finest coarser =>
    rw [linear, Except.ok.injEq]
    constructor
    · rintro rfl
      rfl
    · intro hnames
      exact eq_of_names_eq hnames.symm

/-- **Level names in order make up the hierarchy in which they are counted off.** -/
theorem linear_eq_ok_iff_levels {levelNames : List String} : linear levelNames = .ok h ↔
    h.levels = levelNames.mapIdx fun index name => ⟨index, name⟩ := by
  rw [linear_eq_ok_iff]
  constructor
  · rintro rfl
    rfl
  · intro hlevels
    have hnames := congrArg (List.map Level.name) hlevels
    rw [map_name_levels] at hnames
    rw [hnames]
    exact List.ext_getElem (by simp) (by simp)

/-- **No hierarchy is made up of no level names.** -/
theorem linear_eq_error_iff {levelNames : List String} {e : SchemaError} :
    linear levelNames = .error e ↔ levelNames = [] ∧ e = .emptyHierarchy := by
  cases levelNames with
  | nil => rw [linear, Except.error.injEq, and_iff_right rfl, eq_comm]
  | cons finest coarser => exact iff_of_false nofun nofun

/-- Rows of level names fail to make up hierarchies exactly when a row is empty. -/
theorem mapM_linear_eq_error_iff {rows : List (List String)} {e : SchemaError} :
    rows.mapM linear = .error e ↔ [] ∈ rows ∧ e = .emptyHierarchy := by
  constructor
  · intro herror
    obtain ⟨front, row, back, rfl, -, hrow⟩ := mapM_eq_error_iff.mp herror
    obtain ⟨rfl, rfl⟩ := linear_eq_error_iff.mp hrow
    exact ⟨List.mem_append_right _ List.mem_cons_self, rfl⟩
  · rintro ⟨hempty, rfl⟩
    cases hrows : rows.mapM linear with
    | ok hs =>
      obtain ⟨h, hlinear⟩ := exists_mapM_eq_ok_iff.mp ⟨hs, hrows⟩ [] hempty
      cases hlinear
    | error e' =>
      obtain ⟨front, row, back, -, -, hrow⟩ := mapM_eq_error_iff.mp hrows
      rw [(linear_eq_error_iff.mp hrow).2]

/-! ## Levels in any order -/

/-- No level is misplaced exactly when the indices are counted off in order. -/
theorem firstMisplaced_eq_none_iff {expected : Nat} {levels : List Level} :
    firstMisplaced expected levels = none ↔
      ∀ i level, levels[i]? = some level → level.index = expected + i := by
  induction levels generalizing expected with
  | nil => simp [firstMisplaced]
  | cons first rest ih =>
    rw [firstMisplaced]
    by_cases hfirst : first.index = expected
    · rw [if_pos hfirst, ih]
      constructor
      · intro hrest i level hlevel
        cases i with
        | zero =>
          cases hlevel
          exact hfirst
        | succ i =>
          have hindex := hrest i level hlevel
          omega
      · intro hall i level hlevel
        have hindex := hall (i + 1) level hlevel
        omega
    · rw [if_neg hfirst]
      exact iff_of_false nofun fun hall => hfirst (hall 0 first rfl)

/-- Levels whose indices are their places are the levels of the hierarchy of their names. -/
theorem levels_eq_of_names_eq {levels : List Level} (hnames : h.names = levels.map Level.name)
    (hplaces : ∀ (i : Nat) (level : Level), levels[i]? = some level → level.index = i) :
    h.levels = levels := by
  refine List.ext_getElem? fun i => ?_
  rw [getElem?_levels, hnames, List.getElem?_map, Option.map_map]
  cases hlevel : levels[i]? with
  | none => rfl
  | some level =>
    have hindex := hplaces i level hlevel
    cases level
    cases hindex
    rfl

/-- Sorted levels are sorted by index. -/
theorem pairwise_mergeSort_index (levels : List Level) :
    (levels.mergeSort fun a b => decide (a.index ≤ b.index)).Pairwise
      fun a b => decide (a.index ≤ b.index) = true :=
  List.pairwise_mergeSort (by simp; omega) (by simp; omega) levels

/-- Sorting the levels of a hierarchy, given in any order, gives them back in order. -/
theorem mergeSort_index_eq {levels : List Level} (hperm : h.levels.Perm levels) :
    levels.mergeSort (fun a b => decide (a.index ≤ b.index)) = h.levels := by
  have hsorted := pairwise_mergeSort_index levels
  have hplaces : h.levels.Pairwise fun a b => decide (a.index ≤ b.index) = true :=
    h.pairwise_index_levels.imp fun hlt => decide_eq_true hlt.le
  have hsame : (levels.mergeSort fun a b => decide (a.index ≤ b.index)).Perm h.levels :=
    (List.mergeSort_perm levels _).trans hperm.symm
  -- levels of one index are one level, so the order by index leaves no choice
  refine hsame.eq_of_pairwise (fun a b ha hb hab hba => ?_) hsorted hplaces
  exact eq_of_index_eq (hsame.mem_iff.mp ha) hb
    (le_antisymm (of_decide_eq_true hab) (of_decide_eq_true hba))

/-- **A list of levels makes up a hierarchy exactly when it holds its levels, in any order.** -/
theorem ofLevels_eq_ok_iff {levels : List Level} :
    ofLevels levels = .ok h ↔ h.levels.Perm levels := by
  constructor
  · intro hok
    unfold ofLevels at hok
    dsimp only at hok
    split at hok
    · cases hok
    · next hplaced =>
      rw [firstMisplaced_eq_none_iff] at hplaced
      rw [levels_eq_of_names_eq (linear_eq_ok_iff.mp hok) (by simpa using hplaced)]
      exact List.mergeSort_perm levels _
  · intro hperm
    have hplaced : firstMisplaced 0 h.levels = none :=
      firstMisplaced_eq_none_iff.mpr fun i level hlevel => by
        rw [index_of_getElem?_levels hlevel, Nat.zero_add]
    unfold ofLevels
    simp only [mergeSort_index_eq hperm, hplaced]
    exact linear_eq_ok_iff.mpr h.map_name_levels.symm

/-- **Level names in order are levels whose indices are counted off.** -/
theorem linear_eq_ofLevels (levelNames : List String) :
    linear levelNames = ofLevels (levelNames.mapIdx fun index name => ⟨index, name⟩) := by
  cases levelNames with
  | nil => simp [ofLevels, firstMisplaced]
  | cons finest coarser =>
    have hlevels : ofLevels ((finest :: coarser).mapIdx fun index name => ⟨index, name⟩) =
        .ok ⟨finest, coarser⟩ := ofLevels_eq_ok_iff.mpr (List.Perm.refl _)
    rw [hlevels, linear]

end CubeAssessment.Hierarchy
