import Mathlib.Data.List.Infix
import Mathlib.Data.List.TakeWhile

/-! # Reading the pieces of a text back

A piece that a separator follows can be read back when the separator does not occur in it, be it
from the left (`eq_of_append_cons_eq`) or from the right (`eq_of_append_cons_eq_right`); a quoted
piece that may contain the quote can be read back when no separator follows the quote in it
(`eq_of_quoted_eq`). Members that can be read back one at a time can be read back from a row with
separators between them (`Readable.eq_of_intercalate_eq`). -/

namespace CubeAssessment.Text

variable {α : Type}

/-! ## One piece -/

/-- The piece in front of the first separator. -/
theorem takeWhile_append_cons [DecidableEq α] {a : α} {xs s : List α} (h : a ∉ xs) :
    (xs ++ a :: s).takeWhile (fun x => x ≠ a) = xs := by
  have hpiece : ∀ x ∈ xs, decide (x ≠ a) = true := by
    intro x hx
    refine decide_eq_true fun heq => h ?_
    rwa [heq] at hx
  rw [List.takeWhile_append_of_pos hpiece, List.takeWhile_cons_of_neg (by simp), List.append_nil]

/-- **A piece without the separator is read back up to the first one.** -/
theorem eq_of_append_cons_eq [DecidableEq α] {a : α} {xs ys s t : List α} (hxs : a ∉ xs)
    (hys : a ∉ ys) (h : xs ++ a :: s = ys ++ a :: t) : xs = ys ∧ s = t := by
  have hpiece : xs = ys := by
    rw [← takeWhile_append_cons (s := s) hxs, h, takeWhile_append_cons hys]
  rw [hpiece, List.append_cancel_left_eq, List.cons.injEq] at h
  exact ⟨hpiece, h.2⟩

/-- **A piece without the separator is read back from the last one on.** -/
theorem eq_of_append_cons_eq_right [DecidableEq α] {a : α} {xs ys s t : List α} (hs : a ∉ s)
    (ht : a ∉ t) (h : xs ++ a :: s = ys ++ a :: t) : xs = ys ∧ s = t := by
  have hreverse : s.reverse ++ a :: xs.reverse = t.reverse ++ a :: ys.reverse := by
    simpa using congrArg List.reverse h
  obtain ⟨hst, hxy⟩ := eq_of_append_cons_eq (by rwa [List.mem_reverse]) (by rwa [List.mem_reverse])
    hreverse
  exact ⟨List.reverse_injective hxy, List.reverse_injective hst⟩

/-- What may follow a member of a separated row: nothing, or a separator and more. -/
def Continues (a : α) (s : List α) : Prop := ∀ c ∈ s.head?, c = a

/-- **A piece without the separator is read back with what follows it in a row.** -/
theorem eq_of_append_eq_of_continues [DecidableEq α] {a : α} {xs ys s t : List α} (hxs : a ∉ xs)
    (hys : a ∉ ys) (hs : Continues a s) (ht : Continues a t) (h : xs ++ s = ys ++ t) :
    xs = ys ∧ s = t := by
  -- a separator put behind both makes one follow each piece
  have hsep : ∀ u, Continues a u → ∃ v, u ++ [a] = a :: v := by
    intro u hu
    cases u with
    | nil => exact ⟨[], rfl⟩
    | cons c u =>
        have hc : c = a := hu c rfl
        exact ⟨u ++ [a], by rw [hc, List.cons_append]⟩
  obtain ⟨v, hv⟩ := hsep s hs
  obtain ⟨w, hw⟩ := hsep t ht
  have happend : xs ++ a :: v = ys ++ a :: w := by
    rw [← hv, ← hw, ← List.append_assoc, ← List.append_assoc, h]
  obtain ⟨hpiece, -⟩ := eq_of_append_cons_eq hxs hys happend
  rw [hpiece, List.append_cancel_left_eq] at h
  exact ⟨hpiece, h⟩

/-- No quote further on closes a piece in which no separator follows a quote. -/
theorem not_closes_later {quote a : α} (hne : quote ≠ a) {xs zs s t : List α} {z : α}
    (hclean : ¬ [quote, a] <:+: xs ++ z :: zs) (hs : Continues a s) :
    xs ++ quote :: s ≠ (xs ++ z :: zs) ++ quote :: t := by
  intro h
  rw [List.append_assoc, List.append_cancel_left_eq, List.cons_append, List.cons.injEq] at h
  obtain ⟨rfl, rfl⟩ := h
  cases zs with
  | nil => exact hne (hs quote rfl)
  | cons c zs =>
      have hc : c = a := hs c rfl
      exact hclean ⟨xs, zs, by simp [hc]⟩

/-- **A quoted piece is read back up to the first quote that a separator or the end follows.** -/
theorem eq_of_quoted_eq {quote a : α} (hne : quote ≠ a) {xs ys s t : List α}
    (hxs : ¬ [quote, a] <:+: xs) (hys : ¬ [quote, a] <:+: ys) (hs : Continues a s)
    (ht : Continues a t) (h : xs ++ quote :: s = ys ++ quote :: t) : xs = ys ∧ s = t := by
  have hpiece : xs = ys := by
    -- one piece begins with the other, and goes on only if a quote in it was taken for the end
    rcases List.append_eq_append_iff.mp h with ⟨zs, rfl, -⟩ | ⟨zs, rfl, -⟩
    · cases zs with
      | nil => rw [List.append_nil]
      | cons z zs => exact absurd h (not_closes_later hne hys hs)
    · cases zs with
      | nil => rw [List.append_nil]
      | cons z zs => exact absurd h.symm (not_closes_later hne hxs ht)
  rw [hpiece, List.append_cancel_left_eq, List.cons.injEq] at h
  exact ⟨hpiece, h.2⟩

/-- **A piece that stands on both sides of a middle** leaves, cut off at the length of a longer one,
the longer one's middle between what it lacks on either side. -/
theorem exists_of_framed_eq {m n p q : List α} (h : m ++ (p ++ m) = n ++ (q ++ n))
    (hle : m.length ≤ n.length) : ∃ x y, n = m ++ x ∧ n = y ++ m ∧ p = x ++ (q ++ y) := by
  have hprefix : n <+: m ++ (p ++ m) := ⟨q ++ n, h.symm⟩
  have hsuffix : n <:+ m ++ (p ++ m) := by
    rw [h]
    exact ⟨n ++ q, List.append_assoc n q n⟩
  obtain ⟨x, hx⟩ : m <+: n :=
    List.prefix_of_prefix_length_le ⟨p ++ m, rfl⟩ hprefix hle
  obtain ⟨y, hy⟩ : m <:+ n :=
    List.suffix_of_suffix_length_le ⟨m ++ p, List.append_assoc m p m⟩ hsuffix hle
  refine ⟨x, y, hx.symm, hy.symm, ?_⟩
  have hmiddle : m ++ (p ++ m) = m ++ ((x ++ (q ++ y)) ++ m) := by
    calc m ++ (p ++ m) = n ++ (q ++ n) := h
      _ = (m ++ x) ++ (q ++ (y ++ m)) := by rw [hx, hy]
      _ = m ++ ((x ++ (q ++ y)) ++ m) := by simp only [List.append_assoc]
  exact List.append_cancel_right (List.append_cancel_left hmiddle)

/-! ## Rows of pieces -/

/-- A row of members is, with a separator in front, each member with a separator in front. -/
theorem cons_intercalate_eq (a : α) (xs : List α) (rest : List (List α)) :
    a :: List.intercalate [a] (xs :: rest) = (xs :: rest).flatMap fun ys => a :: ys := by
  induction rest generalizing xs with
  | nil => simp
  | cons ys rest ih =>
      rw [List.intercalate_cons_cons, List.flatMap_cons, ← ih, List.append_assoc,
        List.singleton_append, List.cons_append]

/-- A character of a row is the separator or one of a member. -/
theorem not_mem_intercalate {a c : α} {rows : List (List α)} (hne : c ≠ a)
    (h : ∀ xs ∈ rows, c ∉ xs) : c ∉ List.intercalate [a] rows := by
  cases rows with
  | nil => simp
  | cons xs rest =>
      intro hmem
      have hfront : c ∈ (xs :: rest).flatMap fun ys => a :: ys := by
        rw [← cons_intercalate_eq]
        exact List.mem_cons_of_mem a hmem
      obtain ⟨ys, hys, hc⟩ := List.mem_flatMap.mp hfront
      rcases List.mem_cons.mp hc with heq | hc
      · exact hne heq
      · exact h ys hys hc

/-- Members with a separator in front continue what stands before them. -/
theorem continues_flatMap (a : α) (rest : List (List α)) :
    Continues a (rest.flatMap fun ys => a :: ys) := by
  cases rest with
  | nil => nofun
  | cons ys rest => simp [Continues]

/-- **Good members are read back from their prints** with what follows these in a row. -/
def Readable {β : Type} (a : α) (print : β → List α) (Good : β → Prop) : Prop :=
  ∀ {x y : β} {s t : List α}, Good x → Good y → Continues a s → Continues a t →
    print x ++ s = print y ++ t → x = y ∧ s = t

section Rows

variable {β : Type} {a : α} {print : β → List α} {Good : β → Prop}

/-- Readable members are read back one by one, each with a separator in front. -/
theorem Readable.eq_of_flatMap_eq (hprint : Readable a print Good) {xs ys : List β}
    (hxs : ∀ x ∈ xs, Good x) (hys : ∀ y ∈ ys, Good y)
    (h : ((xs.map print).flatMap fun p => a :: p) = (ys.map print).flatMap fun p => a :: p) :
    xs = ys := by
  induction xs generalizing ys with
  | nil =>
      cases ys with
      | nil => rfl
      | cons y ys => cases h
  | cons x xs ih =>
      cases ys with
      | nil => cases h
      | cons y ys =>
          rw [List.forall_mem_cons] at hxs hys
          rw [List.map_cons, List.map_cons, List.flatMap_cons, List.flatMap_cons, List.cons_append,
            List.cons_append, List.cons.injEq] at h
          obtain ⟨hxy, hrest⟩ := hprint hxs.1 hys.1 (continues_flatMap a _)
            (continues_flatMap a _) h.2
          rw [hxy, ih hxs.2 hys.2 hrest]

/-- **Readable members are read back from a row** when none is printed empty. -/
theorem Readable.eq_of_intercalate_eq (hprint : Readable a print Good)
    (hnonempty : ∀ x, print x ≠ []) {xs ys : List β} (hxs : ∀ x ∈ xs, Good x)
    (hys : ∀ y ∈ ys, Good y)
    (h : List.intercalate [a] (xs.map print) = List.intercalate [a] (ys.map print)) : xs = ys := by
  -- a row with members has more than a separator put in front of it
  have hrow : ∀ x xs, [a] ≠ ((x :: xs).map print).flatMap fun p => a :: p := by
    intro x xs heq
    rw [List.map_cons, List.flatMap_cons, List.cons_append, List.cons.injEq] at heq
    exact hnonempty x (List.append_eq_nil_iff.mp heq.2.symm).1
  have hfront : a :: List.intercalate [a] (xs.map print) =
      a :: List.intercalate [a] (ys.map print) := by rw [h]
  cases xs with
  | nil =>
      cases ys with
      | nil => rfl
      | cons y ys =>
          rw [List.map_cons, cons_intercalate_eq] at hfront
          exact absurd hfront (hrow y ys)
  | cons x xs =>
      cases ys with
      | nil =>
          rw [List.map_cons, cons_intercalate_eq] at hfront
          exact absurd hfront.symm (hrow x xs)
      | cons y ys =>
          rw [List.map_cons, List.map_cons, cons_intercalate_eq, cons_intercalate_eq] at hfront
          exact hprint.eq_of_flatMap_eq hxs hys hfront

end Rows

end CubeAssessment.Text
