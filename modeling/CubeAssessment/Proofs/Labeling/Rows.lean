import CubeAssessment.Labeling.Rule
import CubeAssessment.Proofs.Collections.Traversal

/-! # Rules from rows of fields

A row of exactly five fields is a rule and no other row is (`ofFields_eq_some_iff`). So a list of
rows is read as the rules that have these fields (`ofRows_eq_ok_iff`), or refused for the first row
that does not have five (`ofRows_eq_error_iff`). -/

namespace CubeAssessment.LabelingRule

/-- **A row is the rule that has its fields.** -/
theorem ofFields_eq_some_iff {row : List String} {rule : LabelingRule} :
    ofFields row = some rule ↔ rule.fields = row := by
  cases rule with
  | mk left lower upper right label =>
    constructor
    · intro h
      unfold ofFields at h
      split at h
      · cases h
        rfl
      · cases h
    · rintro rfl
      rfl

/-- A row is no rule when it does not have five fields. -/
theorem ofFields_eq_none_iff {row : List String} : ofFields row = none ↔ row.length ≠ 5 := by
  unfold ofFields
  split
  · simp
  · next hrow =>
    refine iff_of_true rfl fun hlength => ?_
    match row, hlength with
    | [left, lower, upper, right, label], _ => exact hrow left lower upper right label rfl

/-- Rows are read as the rules that have their fields, whatever the position of the first. -/
theorem ofRowsFrom_eq_ok_iff {start : Nat} {rows : List (List String)}
    {rules : List LabelingRule} :
    ofRowsFrom start rows = .ok rules ↔ rules.map fields = rows := by
  induction rows generalizing start rules with
  | nil => simp [ofRowsFrom, eq_comm]
  | cons row rows ih =>
    unfold ofRowsFrom
    cases hrow : ofFields row with
    | none =>
      refine iff_of_false nofun fun h => ?_
      obtain ⟨rule, rest, -, hrule, -⟩ := List.map_eq_cons_iff.mp h
      rw [ofFields_eq_some_iff.mpr hrule] at hrow
      cases hrow
    | some rule =>
      rw [ofFields_eq_some_iff] at hrow
      simp only [map_eq_ok_iff, ih, List.map_eq_cons_iff]
      constructor
      · rintro ⟨rest, hrest, rfl⟩
        exact ⟨rule, rest, rfl, hrow, hrest⟩
      · rintro ⟨rule', rest, rfl, hrule', hrest⟩
        -- a row determines its rule
        have hsame : some rule' = some rule :=
          (ofFields_eq_some_iff.mpr hrule').symm.trans (ofFields_eq_some_iff.mpr hrow)
        cases hsame
        exact ⟨rest, hrest, rfl⟩

/-- Rows are refused for the first that does not have five fields, whatever the position of the
first row. -/
theorem ofRowsFrom_eq_error_iff {start : Nat} {rows : List (List String)} {e : LabelingError} :
    ofRowsFrom start rows = .error e ↔ ∃ front row back, rows = front ++ row :: back ∧
      (∀ r ∈ front, r.length = 5) ∧ row.length ≠ 5 ∧
      e = .malformedRule (start + front.length) row.length := by
  induction rows generalizing start with
  | nil => exact iff_of_false nofun (by simp)
  | cons row rows ih =>
    unfold ofRowsFrom
    cases hrow : ofFields row with
    | none =>
      rw [ofFields_eq_none_iff] at hrow
      constructor
      · intro h
        cases h
        exact ⟨[], row, rows, rfl, nofun, hrow, rfl⟩
      · rintro ⟨front, bad, back, hrows, hfront, hbad, rfl⟩
        cases front with
        | nil =>
          cases hrows
          rfl
        | cons r front =>
          cases hrows
          exact absurd (hfront _ List.mem_cons_self) hrow
    | some rule =>
      have hfive : row.length = 5 := by
        by_contra hlength
        rw [ofFields_eq_none_iff.mpr hlength] at hrow
        cases hrow
      dsimp only
      rw [map_eq_error_iff, ih]
      constructor
      · rintro ⟨front, bad, back, rfl, hfront, hbad, rfl⟩
        refine ⟨row :: front, bad, back, rfl, List.forall_mem_cons.mpr ⟨hfive, hfront⟩, hbad, ?_⟩
        rw [List.length_cons]
        congr 1
        omega
      · rintro ⟨front, bad, back, hrows, hfront, hbad, rfl⟩
        cases front with
        | nil =>
          cases hrows
          exact absurd hfive hbad
        | cons r front =>
          cases hrows
          refine ⟨front, bad, back, rfl, (List.forall_mem_cons.mp hfront).2, hbad, ?_⟩
          rw [List.length_cons]
          congr 1
          omega

/-- **Rows are read as the rules that have their fields.** -/
theorem ofRows_eq_ok_iff {rows : List (List String)} {rules : List LabelingRule} :
    ofRows rows = .ok rules ↔ rules.map fields = rows :=
  ofRowsFrom_eq_ok_iff

/-- **Rows are refused for the first that does not have five fields**, with its position and its
length. -/
theorem ofRows_eq_error_iff {rows : List (List String)} {e : LabelingError} :
    ofRows rows = .error e ↔ ∃ front row back, rows = front ++ row :: back ∧
      (∀ r ∈ front, r.length = 5) ∧ row.length ≠ 5 ∧
      e = .malformedRule front.length row.length := by
  rw [ofRows, ofRowsFrom_eq_error_iff]
  simp only [Nat.zero_add]

/-- Rows of five fields each are the rows of their rules. -/
theorem map_fields_filterMap_ofFields {rows : List (List String)}
    (h : ∀ row ∈ rows, row.length = 5) : (rows.filterMap ofFields).map fields = rows := by
  induction rows with
  | nil => rfl
  | cons row rows ih =>
    obtain ⟨hrow, hrows⟩ := List.forall_mem_cons.mp h
    obtain ⟨rule, hrule⟩ := Option.ne_none_iff_exists'.mp
      (fun hnone => (ofFields_eq_none_iff.mp hnone) hrow)
    rw [List.filterMap_cons_some hrule, List.map_cons, ih hrows, ofFields_eq_some_iff.mp hrule]

/-- **Rows of five fields each are read.** -/
theorem ofRows_of_forall {rows : List (List String)} (h : ∀ row ∈ rows, row.length = 5) :
    ofRows rows = .ok (rows.filterMap ofFields) :=
  ofRows_eq_ok_iff.mpr (map_fields_filterMap_ofFields h)

/-- Rows of which one does not have five fields are refused. -/
theorem exists_ofRows_eq_error {rows : List (List String)} (h : ¬ ∀ row ∈ rows, row.length = 5) :
    ∃ e, ofRows rows = .error e := by
  cases hrows : ofRows rows with
  | error e => exact ⟨e, rfl⟩
  | ok rules =>
    refine absurd (fun row hrow => ?_) h
    rw [← ofRows_eq_ok_iff.mp hrows] at hrow
    obtain ⟨rule, -, rfl⟩ := List.mem_map.mp hrow
    rfl

end CubeAssessment.LabelingRule
