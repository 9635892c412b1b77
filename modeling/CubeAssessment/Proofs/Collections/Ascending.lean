import CubeAssessment.Collections.Ascending
import Mathlib.Data.List.Nodup
import Mathlib.Data.List.Sort
import Mathlib.Order.RelClasses

/-! # Ascending lists as sets

Over a strict total order `ascending xs` has the members of `xs` (`mem_ascending`), each once and in
ascending order (`pairwise_ascending`), and is determined by them (`eq_of_pairwise_lt`). Over an
order with ties a stable sort is one by insertion (`mergeSort_eq_insertionSort_of_total`). -/

namespace CubeAssessment

/-- **A list in the order of an asymmetric relation is determined by its members.** -/
theorem eq_of_pairwise {α : Type} {r : α → α → Prop} (hr : ∀ a b, r a b → ¬ r b a) {xs ys : List α}
    (hx : xs.Pairwise r) (hy : ys.Pairwise r) (h : ∀ a, a ∈ xs ↔ a ∈ ys) : xs = ys := by
  have hnodup : ∀ zs : List α, zs.Pairwise r → zs.Nodup := by
    refine fun zs hz => hz.imp fun {a b} hab heq => ?_
    subst heq
    exact hr a a hab hab
  have hperm : xs.Perm ys := (List.perm_ext_iff_of_nodup (hnodup xs hx) (hnodup ys hy)).mpr h
  exact hperm.eq_of_pairwise (fun a b _ _ hab hba => absurd hba (hr a b hab)) hx hy

/-! ## Sorting by insertion -/

/-- A member is inserted behind those that it may not stand before. -/
theorem orderedInsert_append {α : Type} {r : α → α → Prop} [DecidableRel r] {a : α}
    {front back : List α} (hfront : ∀ b ∈ front, ¬ r a b) (hback : ∀ b ∈ back, r a b) :
    (front ++ back).orderedInsert r a = front ++ a :: back := by
  induction front with
  | nil =>
      cases back with
      | nil => rfl
      | cons b back => exact List.orderedInsert_cons_of_le r back (hback b List.mem_cons_self)
  | cons b front ih =>
      obtain ⟨hb, hfront⟩ := List.forall_mem_cons.mp hfront
      rw [List.cons_append, List.orderedInsert_of_not_le r _ hb, ih hfront, List.cons_append]

/-- **A stable sort is one by insertion**, also where the order leaves ties. -/
theorem mergeSort_eq_insertionSort_of_total {α : Type} {le : α → α → Bool}
    (htrans : ∀ a b c, le a b → le b c → le a c) (htotal : ∀ a b, le a b || le b a)
    (xs : List α) : xs.mergeSort le = xs.insertionSort fun a b => le a b = true := by
  induction xs with
  | nil => rw [List.mergeSort_nil, List.insertionSort_nil]
  | cons a xs ih =>
      -- sorting puts the new member behind those that must stand before it, and moves no other
      obtain ⟨front, back, hcons, hrest, hfront⟩ := List.mergeSort_cons htrans htotal a xs
      have hback : ∀ b ∈ back, le a b = true := by
        have hsorted := List.pairwise_mergeSort htrans htotal (a :: xs)
        rw [hcons, List.pairwise_append, List.pairwise_cons] at hsorted
        exact hsorted.2.1.1
      have hnot : ∀ b ∈ front, ¬ le a b = true := fun b hb => by simpa using hfront b hb
      rw [List.insertionSort_cons, ← ih, hrest, hcons, orderedInsert_append hnot hback]

/-! ## Strictly ascending lists -/

variable {α : Type} [LT α] [IsStrictTotalOrder α (· < ·)]

/-- A strictly ascending list is determined by its members. -/
theorem eq_of_pairwise_lt {xs ys : List α} (hx : xs.Pairwise (· < ·)) (hy : ys.Pairwise (· < ·))
    (h : ∀ a, a ∈ xs ↔ a ∈ ys) : xs = ys :=
  eq_of_pairwise (fun _ _ => asymm) hx hy h

variable [DecidableLT α]

/-- `y ∈ insertAscending x xs ↔ y = x ∨ y ∈ xs`. -/
theorem mem_insertAscending {x y : α} {xs : List α} :
    y ∈ insertAscending x xs ↔ y = x ∨ y ∈ xs := by
  induction xs with
  | nil => rw [insertAscending, List.mem_singleton, or_iff_left List.not_mem_nil]
  | cons z zs ih =>
      rw [insertAscending]
      split
      · exact List.mem_cons
      · next hxz =>
        split
        · rw [List.mem_cons, ih, List.mem_cons, or_left_comm]
        · next hzx =>
          -- neither below nor above the head, the member is the head
          have heq : x = z := Std.Trichotomous.trichotomous x z hxz hzx
          rw [heq, List.mem_cons, or_self_left]

/-- Putting a member into an ascending list keeps it ascending. -/
theorem pairwise_insertAscending {x : α} {xs : List α} (h : xs.Pairwise (· < ·)) :
    (insertAscending x xs).Pairwise (· < ·) := by
  induction xs with
  | nil => exact List.pairwise_singleton _ _
  | cons z zs ih =>
      obtain ⟨hz, hzs⟩ := List.pairwise_cons.mp h
      rw [insertAscending]
      split
      · next hxz =>
        refine List.pairwise_cons.mpr ⟨fun y hy => ?_, h⟩
        rcases List.mem_cons.mp hy with rfl | hy
        · exact hxz
        · exact IsTrans.trans x z y hxz (hz y hy)
      · split
        · next hzx =>
          refine List.pairwise_cons.mpr ⟨fun y hy => ?_, ih hzs⟩
          rcases mem_insertAscending.mp hy with rfl | hy
          · exact hzx
          · exact hz y hy
        · exact h

/-- **`ascending xs` has the members of `xs`.** -/
@[simp] theorem mem_ascending {x : α} {xs : List α} : x ∈ ascending xs ↔ x ∈ xs := by
  induction xs with
  | nil => rw [ascending_nil]
  | cons y ys ih => rw [ascending_cons, mem_insertAscending, ih, List.mem_cons]

/-- **`ascending xs` is strictly ascending.** -/
theorem pairwise_ascending (xs : List α) : (ascending xs).Pairwise (· < ·) := by
  induction xs with
  | nil => exact List.Pairwise.nil
  | cons y ys ih =>
      rw [ascending_cons]
      exact pairwise_insertAscending ih

end CubeAssessment
