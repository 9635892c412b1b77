import CubeAssessment.Proofs.Clauses
import Mathlib.Data.List.Destutter

/-! # Clauses as sets

Group-by and selection clauses are built in one way from different inputs: each input names a level,
and its entry is made of the level the name resolves to. What such a builder computes is said once,
for any kind of input and entry (`Cube.ComputesSet`): the ascending list of the entries of the
inputs, or else the error of the smallest name that does not resolve. Both builders compute their
sets (`build_computesSet`). Collecting in ascending order is sorting and dropping repeated
neighbours (`Cube.collect_eq_destutter`). -/

namespace CubeAssessment

/-! ## Sorting and dropping repeated neighbours -/

section Ascending

variable {α : Type} [LT α] [DecidableLT α] [IsStrictTotalOrder α (· < ·)]

/-- Sorting puts no member in front of a smaller one. -/
theorem pairwise_mergeSort_not_lt (xs : List α) :
    (xs.mergeSort fun a b => decide (¬ b < a)).Pairwise fun a b => ¬ b < a := by
  have htrans : ∀ a b c : α, decide (¬ b < a) = true → decide (¬ c < b) = true →
      decide (¬ c < a) = true := by
    intro a b c hab hbc
    refine decide_eq_true fun hca => of_decide_eq_true hbc ?_
    -- a member below `a` is below `b` too, which is `a` or above it
    by_cases hlt : a < b
    · exact IsTrans.trans c a b hca hlt
    · rwa [← Std.Trichotomous.trichotomous a b hlt (of_decide_eq_true hab)]
  have htotal : ∀ a b : α, (decide (¬ b < a) || decide (¬ a < b)) = true := by
    intro a b
    rw [Bool.or_eq_true, decide_eq_true_iff, decide_eq_true_iff]
    exact not_and_or.mp fun h => asymm h.1 h.2
  exact (List.pairwise_mergeSort htrans htotal xs).imp of_decide_eq_true

/-- **The ascending list of members** is what is left of the sorted list when repeated neighbours
are dropped. -/
theorem ascending_eq_destutter [DecidableEq α] (xs : List α) :
    ascending xs = (xs.mergeSort fun a b => decide (¬ b < a)).destutter (· ≠ ·) := by
  have hsorted := pairwise_mergeSort_not_lt xs
  have : Std.Antisymm fun a b : α => ¬ b < a :=
    ⟨fun a b hba hab => Std.Trichotomous.trichotomous a b hab hba⟩
  rw [hsorted.destutter_eq_dedup]
  refine eq_of_pairwise_lt (pairwise_ascending xs) ?_ fun a => ?_
  · -- sorted members that differ ascend
    refine ((hsorted.sublist (List.dedup_sublist _)).and (List.nodup_dedup _)).imp ?_
    rintro a b ⟨hba, hne⟩
    exact not_not.mp fun hab => hne (Std.Trichotomous.trichotomous a b hab hba)
  · rw [mem_ascending, List.mem_dedup, List.mem_mergeSort]

end Ascending

/-! ## Builders -/

namespace Cube

/-- **A clause builder computes the set of what its inputs denote.** An input has a name and makes
an entry of the level that name resolves to; `lt` is the order of the entries, `clause` the error
reported for a name that does not resolve, and `entries` reads a clause. -/
structure ComputesSet {α β γ : Type} (cube : Cube) (name : α → String) (make : α → LevelRef → β)
    (lt : β → β → Prop) (clause : ResolveError → ClauseError) (entries : γ → List β)
    (build : List α → Except ClauseError γ) : Prop where
  /-- A clause is built exactly when every name resolves. -/
  exists_ok_iff : ∀ items, (∃ built, build items = .ok built) ↔
    ∀ item ∈ items, ∃ r, cube.resolve (name item) = .ok r
  /-- The entries are strictly ascending. -/
  pairwise : ∀ items built, build items = .ok built → (entries built).Pairwise lt
  /-- They are the entries made of the levels of the inputs. -/
  mem_iff : ∀ items built, build items = .ok built → ∀ b, b ∈ entries built ↔
    ∃ item ∈ items, ∃ r, cube.resolve (name item) = .ok r ∧ make item r = b
  /-- The error is that of the smallest name that does not resolve. -/
  error_iff : ∀ items e, build items = .error e ↔ ∃ item ∈ items, ∃ cause,
    cube.resolve (name item) = .error cause ∧ e = clause cause ∧
      ∀ other ∈ items, name other < name item → ∃ r, cube.resolve (name other) = .ok r
  /-- Only the set of the inputs matters. -/
  congr : ∀ items items', (∀ item, item ∈ items ↔ item ∈ items') → build items = build items'

variable {α β γ : Type} [LT β] [DecidableLT β] [IsStrictTotalOrder β (· < ·)] {cube : Cube}
  {name : α → String} {make : α → LevelRef → β}

/-- **Collecting is sorting what is made of the levels and dropping repeated neighbours.** -/
theorem collect_eq_destutter [DecidableEq β] (items : List α) :
    cube.collect name make items =
      ((items.mergeSort fun a b => decide (name a ≤ name b)).mapM fun item =>
        (cube.resolve (name item)).map (make item)).map fun made =>
          (made.mergeSort fun a b => decide (¬ b < a)).destutter (· ≠ ·) := by
  rw [collect, funext ascending_eq_destutter]

/-- A builder that wraps what is collected computes the set of what its inputs denote. -/
theorem computesSet_of_collect {clause : ResolveError → ClauseError} {entries : γ → List β}
    {build : List α → Except ClauseError γ} (wrap : List β → γ)
    (hbuild : ∀ items, build items = ((cube.collect name make items).mapError clause).map wrap)
    (hentries : ∀ collected, entries (wrap collected) = collected) :
    cube.ComputesSet name make (· < ·) clause entries build := by
  -- a clause that is built wraps what was collected
  have hok : ∀ items built, build items = .ok built →
      cube.collect name make items = .ok (entries built) := by
    intro items built h
    rw [hbuild] at h
    obtain ⟨collected, hcollected, rfl⟩ := map_eq_ok_iff.mp h
    rw [hentries]
    exact mapError_eq_ok_iff.mp hcollected
  refine ⟨fun items => ?_, fun items built h => (of_collect_eq_ok (hok items built h)).1,
    fun items built h => (of_collect_eq_ok (hok items built h)).2, fun items e => ?_,
    fun items items' h => by rw [hbuild, hbuild, collect_congr h]⟩
  · have hcollect : (∃ collected, cube.collect name make items = .ok collected) ↔ _ :=
      exists_collect_eq_ok_iff
    rw [← hcollect, hbuild]
    simp only [map_eq_ok_iff, mapError_eq_ok_iff]
    exact ⟨fun ⟨_, collected, h, _⟩ => ⟨collected, h⟩, fun ⟨collected, h⟩ => ⟨_, collected, h, rfl⟩⟩
  · rw [hbuild, map_eq_error_iff, mapError_eq_error_iff]
    simp only [collect_eq_error_iff]
    constructor
    · rintro ⟨cause, ⟨item, hitem, hcause, hsmaller⟩, rfl⟩
      exact ⟨item, hitem, cause, hcause, rfl, hsmaller⟩
    · rintro ⟨item, hitem, cause, hcause, rfl, hsmaller⟩
      exact ⟨cause, ⟨item, hitem, hcause, hsmaller⟩, rfl⟩

/-- **Both clauses are the sets of what their inputs denote.** The group-by clause of names holds
their levels in the order of the texts, the selection clause of pairs the predicates of the levels
and the literals, in the order of the texts of the levels and then of the literals. Each fails as
its smallest name that does not resolve, and neither depends on order or repetition. -/
theorem build_computesSet (cube : Cube) :
    cube.ComputesSet id (fun _ r => r) (fun a b => a.text < b.text) .groupBy GammaClause.levels
      (GammaClause.build cube) ∧
    cube.ComputesSet Prod.fst (fun pair r => ⟨r, pair.2⟩)
      (fun p q => p.level.text < q.level.text ∨
        p.level.text = q.level.text ∧ p.literal < q.literal)
      .selection SigmaClause.predicates (SigmaClause.build cube) := by
  constructor
  · refine computesSet_of_collect GammaClause.mk (fun names => ?_) fun _ => rfl
    rw [GammaClause.build]
    split <;> next h => rw [h]; rfl
  · refine computesSet_of_collect SigmaClause.mk (fun pairs => ?_) fun _ => rfl
    rw [SigmaClause.build]
    split <;> next h => rw [h]; rfl

end Cube

end CubeAssessment
