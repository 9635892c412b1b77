import CubeAssessment.Proofs.Collections.Traversal
import Mathlib.Data.Set.Insert

/-! # The order of blame

A computation that may fail for several reasons at once is described by a list of checks, each the
set of the faults it finds, in the order in which they are blamed. `Blames checks e` says that `e`
is found by the first check that finds any, and `Obeys checks Good x` that the computation `x` fails
with exactly the faults blamed and otherwise gives a good value. Chains of computations obey their
checks one after the other (`Obeys.bind`). -/

namespace CubeAssessment

variable {ε ε' α β : Type}

/-- **The fault blamed by a list of checks**: one that the first check finds that finds any. -/
def Blames : List (Set ε) → ε → Prop
  | [], _ => False
  | check :: rest, e => e ∈ check ∨ check = ∅ ∧ Blames rest e

/-- No check of the list finds a fault. -/
def Passes (checks : List (Set ε)) : Prop := ∀ check ∈ checks, check = ∅

@[simp] theorem not_blames_nil (e : ε) : ¬ Blames [] e := id

theorem blames_cons {check : Set ε} {rest : List (Set ε)} {e : ε} :
    Blames (check :: rest) e ↔ e ∈ check ∨ check = ∅ ∧ Blames rest e := Iff.rfl

@[simp] theorem blames_singleton {check : Set ε} {e : ε} : Blames [check] e ↔ e ∈ check := by
  simp [blames_cons]

@[simp] theorem passes_nil : Passes ([] : List (Set ε)) := nofun

@[simp] theorem passes_cons {check : Set ε} {rest : List (Set ε)} :
    Passes (check :: rest) ↔ check = ∅ ∧ Passes rest := List.forall_mem_cons

/-- Checks in a row blame what the front ones do, and when these pass what the others do. -/
theorem blames_append {front back : List (Set ε)} {e : ε} :
    Blames (front ++ back) e ↔ Blames front e ∨ Passes front ∧ Blames back e := by
  induction front with
  | nil => simp
  | cons check rest ih =>
      rw [List.cons_append, blames_cons, ih, blames_cons, passes_cons]
      tauto

/-- **A fault is blamed exactly when some check finds one.** -/
theorem exists_blames_iff {checks : List (Set ε)} : (∃ e, Blames checks e) ↔ ¬ Passes checks := by
  induction checks with
  | nil => simp
  | cons check rest ih =>
      rw [passes_cons]
      by_cases hcheck : check = ∅
      · simp only [blames_cons, hcheck, Set.mem_empty_iff_false, true_and, false_or, ih]
      · obtain ⟨e, he⟩ := Set.nonempty_iff_ne_empty.mpr hcheck
        exact iff_of_true ⟨e, Or.inl he⟩ fun h => hcheck h.1

/-- A fault that is blamed is found by some check. -/
theorem Blames.exists_mem {checks : List (Set ε)} {e : ε} (h : Blames checks e) :
    ∃ check ∈ checks, e ∈ check := by
  induction checks with
  | nil => cases h
  | cons check rest ih =>
      rcases h with he | ⟨-, hrest⟩
      · exact ⟨check, List.mem_cons_self, he⟩
      · obtain ⟨found, hfound, he⟩ := ih hrest
        exact ⟨found, List.mem_cons_of_mem _ hfound, he⟩

/-! ## Computations -/

/-- **A computation obeys checks**: it fails with the faults they blame and otherwise gives a good
value. -/
structure Obeys (checks : List (Set ε)) (Good : α → Prop) (x : Except ε α) : Prop where
  /-- It fails with exactly the faults blamed. -/
  error_iff : ∀ e, x = .error e ↔ Blames checks e
  /-- A value it gives is good. -/
  good : ∀ a, x = .ok a → Good a

namespace Obeys

variable {checks checks' : List (Set ε)} {Good : α → Prop} {Good' : β → Prop} {x : Except ε α}

/-- **A computation gives a value exactly when all its checks pass.** -/
theorem exists_ok_iff (h : Obeys checks Good x) : (∃ a, x = .ok a) ↔ Passes checks := by
  simp only [exists_eq_ok_iff, ne_eq, h.error_iff]
  rw [← not_exists, exists_blames_iff, not_not]

/-- A value obeys no checks when it is good. -/
theorem ok {a : α} (h : Good a) : Obeys ([] : List (Set ε)) Good (.ok a) where
  error_iff e := iff_of_false nofun (not_blames_nil e)
  good b hb := by
    cases hb
    exact h

/-- A computation obeys one check when it fails with exactly the faults found. -/
theorem single {check : Set ε} (herror : ∀ e, x = .error e ↔ e ∈ check)
    (hgood : ∀ a, x = .ok a → Good a) : Obeys [check] Good x where
  error_iff e := (herror e).trans blames_singleton.symm
  good := hgood

/-- A computation that fails obeys checks of which the first finds just this fault. -/
theorem fail {check : Set ε} {e : ε} (h : check = {e}) :
    Obeys (check :: checks) Good (.error e) where
  error_iff e' := by
    rw [blames_cons, h, or_iff_left fun hrest => Set.singleton_ne_empty e hrest.1,
      Set.mem_singleton_iff, Except.error.injEq, eq_comm]
  good := nofun

/-- A check that finds nothing can be left out. -/
theorem skip {check : Set ε} (h : check = ∅) (hx : Obeys checks Good x) :
    Obeys (check :: checks) Good x where
  error_iff e := by
    rw [hx.error_iff, blames_cons, h]
    simp
  good := hx.good

/-- A computation followed by a function obeys the checks it does. -/
theorem map {f : α → β} (hx : Obeys checks Good x) (hf : ∀ a, Good a → Good' (f a)) :
    Obeys checks Good' (x.map f) where
  error_iff e := map_eq_error_iff.trans (hx.error_iff e)
  good b hb := by
    obtain ⟨a, ha, rfl⟩ := map_eq_ok_iff.mp hb
    exact hf a (hx.good a ha)

/-- **A chain obeys the checks of its first part and then those of the rest.** -/
theorem bind {f : α → Except ε β} (hx : Obeys checks Good x)
    (hf : ∀ a, Good a → Obeys checks' Good' (f a)) :
    Obeys (checks ++ checks') Good' (x >>= f) := by
  cases h : x with
  | error e =>
      have hblames : Blames checks e := (hx.error_iff e).mp h
      have hfail : ¬ Passes checks := exists_blames_iff.mp ⟨e, hblames⟩
      refine ⟨fun e' => ?_, fun b hb => by cases hb⟩
      rw [blames_append, or_iff_left fun hback => hfail hback.1, ← hx.error_iff, h,
        Except.error.injEq]
      change Except.error e = Except.error e' ↔ e = e'
      rw [Except.error.injEq]
  | ok a =>
      have hpass : Passes checks := hx.exists_ok_iff.mp ⟨a, h⟩
      have hfa := hf a (hx.good a h)
      refine ⟨fun e => ?_, fun b hb => hfa.good b hb⟩
      have hnot : ¬ Blames checks e := fun he => exists_blames_iff.mp ⟨e, he⟩ hpass
      rw [blames_append, or_iff_right hnot, and_iff_right hpass]
      exact hfa.error_iff e

end Obeys

end CubeAssessment
