import CubeAssessment.Schema.LevelRef
import Mathlib.Data.String.Basic
import Mathlib.Order.RelClasses

/-! # The text of a level reference

A reference can be read back from its text, whatever characters the name of the dimension has: the
index is the longest run of digits at the end, and what stands before it is the name and `.lvl`. So
no two references share a text, and the order of the texts is a strict total order of the
references, the one in which they are compared (`text_eq_iff_and_compareText_linear`). -/

namespace CubeAssessment

namespace LevelRef

/-- The characters of a text, read backwards: the digits of the index, the mark and the name. -/
theorem reverse_toList_text (r : LevelRef) : r.text.toList.reverse =
    (Nat.toDigits 10 r.index).reverse ++
      'l' :: 'v' :: 'l' :: '.' :: r.dimension.toList.reverse := by
  rw [text, String.toList_append, String.toList_append, Nat.toString_eq_repr, Nat.toList_repr]
  simp

/-- The digits of an index are digits. -/
theorem isDigit_of_mem_reverse_toDigits (n : Nat) :
    ∀ c ∈ (Nat.toDigits 10 n).reverse, c.isDigit = true := fun _ hc =>
  Nat.isDigit_of_mem_toDigits (by decide) (by decide) (List.mem_reverse.mp hc)

/-- **The longest run of digits at the end of a text is the index.** -/
theorem takeWhile_reverse_toList_text (r : LevelRef) :
    r.text.toList.reverse.takeWhile Char.isDigit = (Nat.toDigits 10 r.index).reverse := by
  rw [reverse_toList_text, List.takeWhile_append_of_pos (isDigit_of_mem_reverse_toDigits r.index),
    List.takeWhile_cons_of_neg (by decide), List.append_nil]

/-- What stands before the index in a text is the name and the mark. -/
theorem dropWhile_reverse_toList_text (r : LevelRef) :
    r.text.toList.reverse.dropWhile Char.isDigit =
      'l' :: 'v' :: 'l' :: '.' :: r.dimension.toList.reverse := by
  rw [reverse_toList_text, List.dropWhile_append_of_pos (isDigit_of_mem_reverse_toDigits r.index),
    List.dropWhile_cons_of_neg (by decide)]

/-- **No two references share a text.** -/
theorem eq_of_text_eq {r s : LevelRef} (h : r.text = s.text) : r = s := by
  have hindex : r.index = s.index := by
    have hdigits := takeWhile_reverse_toList_text r
    rw [h, takeWhile_reverse_toList_text s, List.reverse_inj] at hdigits
    rw [← Nat.ofDigitChars_ten_toDigits (n := r.index), ← hdigits, Nat.ofDigitChars_ten_toDigits]
  have hdimension : r.dimension = s.dimension := by
    have hrest := dropWhile_reverse_toList_text r
    rw [h, dropWhile_reverse_toList_text s] at hrest
    exact String.toList_inj.mp (by simpa using hrest.symm)
  cases r; cases s; cases hindex; cases hdimension; rfl

/-- `r < s` compares the texts. -/
theorem lt_iff {r s : LevelRef} : r < s ↔ r.text < s.text := Iff.rfl

/-- **References are strictly and totally ordered by their texts.** -/
instance : IsStrictTotalOrder LevelRef (· < ·) where
  trichotomous _ _ hrs hsr := eq_of_text_eq (le_antisymm (not_lt.mp hsr) (not_lt.mp hrs))
  irrefl r := lt_irrefl r.text
  trans _ _ _ hrs hst := lt_trans (lt_iff.mp hrs) (lt_iff.mp hst)

/-! ## Comparison -/

/-- References are compared as their texts. -/
theorem compareText_eq (r s : LevelRef) : r.compareText s = compare r.text s.text := rfl

/-- Comparing by text tells every two references apart. -/
theorem compareText_eq_eq_iff {r s : LevelRef} : r.compareText s = .eq ↔ r = s := by
  rw [compareText_eq, Std.compare_eq_iff_eq]
  constructor
  · intro htext
    exact eq_of_text_eq htext
  · rintro rfl
    rfl

/-- Comparing in the other order swaps the answer. -/
theorem compareText_swap (r s : LevelRef) : r.compareText s = (s.compareText r).swap := by
  rw [compareText_eq, compareText_eq]
  exact Std.OrientedOrd.eq_swap

/-- **Comparing by text is transitive.** -/
instance : Std.TransCmp compareText where
  eq_swap := compareText_swap _ _
  isLE_trans := by
    intro r s t hrs hst
    rw [compareText_eq] at hrs hst ⊢
    exact Std.TransOrd.isLE_trans hrs hst

/-- **Texts are ordered by their code points**: the first place where they differ decides, and a
text stands before its continuations. -/
theorem lt_iff_map_toNat_lt {s t : String} :
    s < t ↔ s.toList.map Char.toNat < t.toList.map Char.toNat := by
  have hmono : ∀ {s t : String}, s < t → s.toList.map Char.toNat < t.toList.map Char.toNat := by
    intro s t h
    apply List.map_lt (fun c d hcd => ?_) (String.lt_iff_toList_lt.mp h)
    exact UInt32.lt_iff_toNat_lt.mp (Char.lt_def.mp hcd)
  refine ⟨hmono, fun hcodes => ?_⟩
  by_contra hnot
  -- otherwise the texts are equal or the other way round, and so are their code points
  rcases (not_lt.mp hnot).lt_or_eq with hgt | heq
  · exact lt_asymm hcodes (hmono hgt)
  · rw [heq] at hcodes
    exact lt_irrefl _ hcodes

/-- **The text tells references apart, and comparing by it is a total order that agrees with
equality**, whatever the names of the dimensions are. -/
theorem text_eq_iff_and_compareText_linear :
    (∀ d d' i i', text ⟨d, i⟩ = text ⟨d', i'⟩ ↔ d = d' ∧ i = i') ∧
    (∀ r s : LevelRef, r.compareText s = .lt ↔
      r.text.toList.map Char.toNat < s.text.toList.map Char.toNat) ∧
    (∀ r s : LevelRef, r.compareText s = .eq ↔ r = s) ∧
    (∀ r s : LevelRef, r.compareText s = (s.compareText r).swap) ∧
    (∀ r s : LevelRef, (r.compareText s).isLE → (s.compareText r).isLE → r = s) ∧
    (∀ r s t : LevelRef, (r.compareText s).isLE → (s.compareText t).isLE →
      (r.compareText t).isLE) ∧
    ∀ r s : LevelRef, (r.compareText s).isLE ∨ (s.compareText r).isLE := by
  refine ⟨fun d d' i i' => ?_, fun r s => ?_, fun r s => compareText_eq_eq_iff,
    compareText_swap, fun r s hrs hsr => ?_, fun r s t => Std.TransCmp.isLE_trans, fun r s => ?_⟩
  · constructor
    · intro htext
      cases eq_of_text_eq htext
      exact ⟨rfl, rfl⟩
    · rintro ⟨rfl, rfl⟩
      rfl
  · rw [compareText, compareOfLessAndEq_eq_lt, lt_iff_map_toNat_lt]
  · exact compareText_eq_eq_iff.mp (Std.OrientedCmp.isLE_antisymm hrs hsr)
  · rw [compareText_swap s r]
    cases r.compareText s with
    | lt => exact Or.inl rfl
    | eq => exact Or.inl rfl
    | gt => exact Or.inr rfl

/-- A dimension whose own name is the text of a reference: the levels of `date.lvl1` stand between
those of index 1 and 10 of `date`, and the level of index 2 stands behind them all. -/
theorem compareText_among_dates :
    text ⟨"date", 1⟩ ≠ text ⟨"date.lvl1", 1⟩ ∧
    (compareText ⟨"date", 1⟩ ⟨"date.lvl1", 0⟩).isLE ∧
    (compareText ⟨"date.lvl1", 0⟩ ⟨"date", 10⟩).isLE ∧
    (compareText ⟨"date", 1⟩ ⟨"date", 10⟩).isLE ∧
    compareText ⟨"date", 2⟩ ⟨"date", 10⟩ = .gt := by
  obtain ⟨htext, -, -, hswap, -, htrans, -⟩ := text_eq_iff_and_compareText_linear
  have hname : (compareText ⟨"date", 1⟩ ⟨"date.lvl1", 0⟩).isLE := by decide
  have hindex : (compareText ⟨"date.lvl1", 0⟩ ⟨"date", 10⟩).isLE := by decide
  refine ⟨fun h => ?_, hname, hindex, htrans _ _ _ hname hindex, ?_⟩
  · exact absurd ((htext _ _ _ _).mp h).1 (by decide)
  · rw [hswap]
    decide

end LevelRef

end CubeAssessment
