import Mathlib.Data.List.Basic

/-! # The last member of a kind

In a list that grows at its end, the last member with a property is the newest one that has it
(`findRev?_concat`): of several writes it is the one that counts. `findRev?_eq_some_iff` says the
same of a whole list, by what stands before it and what stands after it. -/

namespace CubeAssessment

variable {α : Type} {p : α → Bool}

/-- **A new member is the last with a property if it has it**; otherwise the last is the old one. -/
theorem findRev?_concat (p : α → Bool) (xs : List α) (x : α) :
    (xs ++ [x]).findRev? p = if p x = true then some x else xs.findRev? p := by
  rw [List.findRev?_eq_find?_reverse, List.findRev?_eq_find?_reverse, List.reverse_concat,
    List.find?_cons]
  cases p x <;> rfl

/-- **The last member with a property** has it, and nothing after it does. -/
theorem findRev?_eq_some_iff {xs : List α} {x : α} : xs.findRev? p = some x ↔
    p x = true ∧ ∃ front back, xs = front ++ x :: back ∧ ∀ y ∈ back, ¬ p y = true := by
  rw [List.findRev?_eq_find?_reverse, List.find?_eq_some_iff_append]
  refine and_congr_right fun _ => ?_
  constructor
  · rintro ⟨back, front, hxs, hback⟩
    refine ⟨front.reverse, back.reverse, ?_, fun y hy => ?_⟩
    · rw [← List.reverse_inj, hxs]
      simp
    · simpa using hback y (List.mem_reverse.mp hy)
  · rintro ⟨front, back, rfl, hback⟩
    refine ⟨back.reverse, front.reverse, by simp, fun y hy => ?_⟩
    simpa using hback y (List.mem_reverse.mp hy)

/-- There is no last member with a property when no member has it. -/
theorem findRev?_eq_none_iff {xs : List α} : xs.findRev? p = none ↔ ∀ x ∈ xs, ¬ p x = true := by
  rw [List.findRev?_eq_find?_reverse, List.find?_eq_none]
  simp only [List.mem_reverse]

end CubeAssessment
