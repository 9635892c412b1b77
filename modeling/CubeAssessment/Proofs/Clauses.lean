import CubeAssessment.Clauses
import CubeAssessment.Proofs.Collections.Ascending
import CubeAssessment.Proofs.Collections.Traversal
import CubeAssessment.Proofs.Schema.LevelRef

/-! # What clauses collect

Collecting the levels of names succeeds exactly when all names resolve (`exists_collect_eq_ok_iff`),
and then with what is made of their levels in ascending order (`collect_eq_ok_iff`); it fails as the
smallest name that does not resolve (`collect_eq_error_iff`). All of this speaks of the members of
the input only, so its order and its repetitions do not matter (`collect_congr`). -/

namespace CubeAssessment

/-- **Predicates are strictly and totally ordered** by the text of the level and the literal. -/
instance : IsStrictTotalOrder Predicate (· < ·) where
  trichotomous a b hab hba := by
    have hlevel : a.level = b.level := Std.Trichotomous.trichotomous (r := (· < ·)) a.level b.level
      (fun h => hab (Or.inl h)) fun h => hba (Or.inl h)
    have hliteral : a.literal = b.literal := le_antisymm
      (not_lt.mp fun h => hba (Or.inr ⟨congrArg LevelRef.text hlevel.symm, h⟩))
      (not_lt.mp fun h => hab (Or.inr ⟨congrArg LevelRef.text hlevel, h⟩))
    cases a; cases b; cases hlevel; cases hliteral; rfl
  irrefl a := by
    rintro (h | ⟨-, h⟩)
    · exact lt_irrefl a.level.text h
    · exact lt_irrefl a.literal h
  trans a b c := by
    rintro (hab | ⟨hab, hab'⟩) (hbc | ⟨hbc, hbc'⟩)
    · exact Or.inl (lt_trans (LevelRef.lt_iff.mp hab) (LevelRef.lt_iff.mp hbc))
    · exact Or.inl ((LevelRef.lt_iff.mp hab).trans_eq hbc)
    · exact Or.inl (hab.trans_lt (LevelRef.lt_iff.mp hbc))
    · exact Or.inr ⟨hab.trans hbc, lt_trans hab' hbc'⟩

namespace Cube

variable {α β : Type} {cube : Cube} {name : α → String} {make : α → LevelRef → β}
  {items : List α}

/-- Sorting by name puts smaller names in front. -/
theorem pairwise_mergeSort_name (name : α → String) (items : List α) :
    (items.mergeSort fun a b => decide (name a ≤ name b)).Pairwise fun a b => name a ≤ name b := by
  have htrans : ∀ a b c, decide (name a ≤ name b) = true → decide (name b ≤ name c) = true →
      decide (name a ≤ name c) = true := fun a b c hab hbc =>
    decide_eq_true ((of_decide_eq_true hab).trans (of_decide_eq_true hbc))
  have htotal : ∀ a b, (decide (name a ≤ name b) || decide (name b ≤ name a)) = true := by
    intro a b
    rw [Bool.or_eq_true, decide_eq_true_iff, decide_eq_true_iff]
    exact le_total (name a) (name b)
  exact (List.pairwise_mergeSort htrans htotal items).imp of_decide_eq_true

/-- Something is made of an item exactly when its name resolves. -/
theorem exists_map_resolve_iff {item : α} :
    (∃ b, (cube.resolve (name item)).map (make item) = .ok b) ↔
      ∃ r, cube.resolve (name item) = .ok r := by
  simp only [map_eq_ok_iff]
  exact ⟨fun ⟨_, r, hr, _⟩ => ⟨r, hr⟩, fun ⟨r, hr⟩ => ⟨_, r, hr, rfl⟩⟩

variable [LT β] [DecidableLT β]

/-- Items in ascending order of their names are gone through as they stand. -/
theorem collect_of_sorted (h : items.Pairwise fun a b => name a ≤ name b) :
    cube.collect name make items =
      (items.mapM fun item => (cube.resolve (name item)).map (make item)).map ascending := by
  have hsorted : items.Pairwise fun a b => decide (name a ≤ name b) = true :=
    h.imp decide_eq_true
  rw [collect, List.mergeSort_of_pairwise hsorted]

/-- **Collecting succeeds exactly when all names resolve.** -/
theorem exists_collect_eq_ok_iff : (∃ collected, cube.collect name make items = .ok collected) ↔
    ∀ item ∈ items, ∃ r, cube.resolve (name item) = .ok r := by
  have h : (∃ bs, (items.mergeSort fun a b => decide (name a ≤ name b)).mapM
      (fun item => (cube.resolve (name item)).map (make item)) = .ok bs) ↔
      ∀ item ∈ items, ∃ r, cube.resolve (name item) = .ok r := by
    rw [exists_mapM_eq_ok_iff]
    simp only [List.mem_mergeSort, exists_map_resolve_iff]
  rw [← h]
  simp only [collect, map_eq_ok_iff]
  exact ⟨fun ⟨_, bs, hbs, _⟩ => ⟨bs, hbs⟩, fun ⟨bs, hbs⟩ => ⟨_, bs, hbs, rfl⟩⟩

/-- **What is collected is what is made of the levels of the names, in ascending order.** -/
theorem of_collect_eq_ok [IsStrictTotalOrder β (· < ·)] {collected : List β}
    (h : cube.collect name make items = .ok collected) : collected.Pairwise (· < ·) ∧
      ∀ b, b ∈ collected ↔ ∃ item ∈ items, ∃ r, cube.resolve (name item) = .ok r ∧
        make item r = b := by
  obtain ⟨bs, hbs, rfl⟩ := map_eq_ok_iff.mp h
  refine ⟨pairwise_ascending bs, fun b => ?_⟩
  rw [mem_ascending, mem_of_mapM_eq_ok_iff hbs]
  simp only [List.mem_mergeSort, map_eq_ok_iff]

/-- **Collecting gives exactly what is made of the levels of the names, in ascending order**, and
it does so when all names resolve. -/
theorem collect_eq_ok_iff [IsStrictTotalOrder β (· < ·)] {collected : List β} :
    cube.collect name make items = .ok collected ↔
      (∀ item ∈ items, ∃ r, cube.resolve (name item) = .ok r) ∧ collected.Pairwise (· < ·) ∧
        ∀ b, b ∈ collected ↔ ∃ item ∈ items, ∃ r, cube.resolve (name item) = .ok r ∧
          make item r = b := by
  constructor
  · intro h
    exact ⟨exists_collect_eq_ok_iff.mp ⟨collected, h⟩, of_collect_eq_ok h⟩
  · rintro ⟨hresolve, hascending, hmem⟩
    obtain ⟨collected', h⟩ : ∃ collected', cube.collect name make items = .ok collected' :=
      exists_collect_eq_ok_iff.mpr hresolve
    obtain ⟨hascending', hmem'⟩ := of_collect_eq_ok h
    rw [h, eq_of_pairwise_lt hascending' hascending fun b => by rw [hmem', hmem]]

/-- When collecting fails, it fails as a name that does not resolve though all smaller ones do. -/
theorem of_collect_eq_error {e : ResolveError} (h : cube.collect name make items = .error e) :
    ∃ item ∈ items, cube.resolve (name item) = .error e ∧
      ∀ item' ∈ items, name item' < name item → ∃ r, cube.resolve (name item') = .ok r := by
  rw [collect, map_eq_error_iff] at h
  obtain ⟨front, item, back, hsorted, hfront, hitem⟩ := mapM_eq_error_iff.mp h
  have hpairwise := pairwise_mergeSort_name name items
  rw [hsorted] at hpairwise
  have hmem : ∀ x, x ∈ items ↔ x ∈ front ++ item :: back := fun x => by
    rw [← hsorted, List.mem_mergeSort]
  refine ⟨item, (hmem item).mpr (List.mem_append_right _ List.mem_cons_self),
    map_eq_error_iff.mp hitem, fun item' hitem' hlt => ?_⟩
  -- a smaller name stands in front of the first that does not resolve
  rcases List.mem_append.mp ((hmem item').mp hitem') with hin | hin
  · exact exists_map_resolve_iff.mp (hfront item' hin)
  · rcases List.mem_cons.mp hin with rfl | hin
    · exact absurd hlt (lt_irrefl _)
    · have hle : name item ≤ name item' :=
        (List.pairwise_cons.mp (List.pairwise_append.mp hpairwise).2.1).1 item' hin
      exact absurd hlt (not_lt.mpr hle)

/-- **Collecting fails as the smallest name that does not resolve.** -/
theorem collect_eq_error_iff {e : ResolveError} : cube.collect name make items = .error e ↔
    ∃ item ∈ items, cube.resolve (name item) = .error e ∧
      ∀ item' ∈ items, name item' < name item → ∃ r, cube.resolve (name item') = .ok r := by
  refine ⟨of_collect_eq_error, ?_⟩
  rintro ⟨item, hitem, he, hsmaller⟩
  cases h : cube.collect name make items with
  | ok collected =>
      obtain ⟨r, hr⟩ := exists_collect_eq_ok_iff.mp ⟨collected, h⟩ item hitem
      cases he.symm.trans hr
  | error e' =>
      obtain ⟨item', hitem', he', hsmaller'⟩ := of_collect_eq_error h
      -- of the two names, each is the smallest
      rcases lt_trichotomy (name item) (name item') with hlt | heq | hgt
      · obtain ⟨r, hr⟩ := hsmaller' item hitem hlt
        cases he.symm.trans hr
      · rw [← heq, he, Except.error.injEq] at he'
        rw [he']
      · obtain ⟨r, hr⟩ := hsmaller item' hitem' hgt
        cases he'.symm.trans hr

/-- **Only the members of the input matter**, neither their order nor how often they occur. -/
theorem collect_congr [IsStrictTotalOrder β (· < ·)] {items' : List α}
    (h : ∀ item, item ∈ items ↔ item ∈ items') :
    cube.collect name make items = cube.collect name make items' := by
  cases hitems : cube.collect name make items with
  | error e =>
      -- which name is the smallest that does not resolve is a question about members
      rw [collect_eq_error_iff] at hitems
      simp only [h] at hitems
      exact (collect_eq_error_iff.mpr hitems).symm
  | ok collected =>
      rw [collect_eq_ok_iff] at hitems
      simp only [h] at hitems
      exact (collect_eq_ok_iff.mpr hitems).symm

end Cube

/-! ## Clauses -/

/-- **A group-by clause depends on the set of its names.** -/
theorem GammaClause.build_congr {cube : Cube} {names names' : List String}
    (h : ∀ name, name ∈ names ↔ name ∈ names') : build cube names = build cube names' := by
  rw [build, Cube.collect_congr h, ← build]

/-- **A selection clause depends on the set of its pairs.** -/
theorem SigmaClause.build_congr {cube : Cube} {pairs pairs' : List (String × String)}
    (h : ∀ pair, pair ∈ pairs ↔ pair ∈ pairs') : build cube pairs = build cube pairs' := by
  rw [build, Cube.collect_congr h, ← build]

end CubeAssessment
