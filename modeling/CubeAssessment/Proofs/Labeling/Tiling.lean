import CubeAssessment.Labeling.Partition
import CubeAssessment.Proofs.Labeling.Cut

/-! # Tilings

A list of intervals *tiles* the stretch from one cut to another when the first starts at the first
cut, each further one where the one before it ends, and the last ends at the second cut. This is a
statement about neighbours, and it is what the search for a defect decides (`defect?_eq_none_iff`).
It says of the list as a whole that each cut in the stretch lies in an interval
(`Tiling.exists_getElem?`), that none lies in two (`Tiling.pairwise`), and conversely that separate
intervals which miss no point are a tiling (`tiling_of_cover`). -/

namespace CubeAssessment

/-- **The intervals fill the stretch from the first cut to the second** in ascending order, each
with points of its own. -/
def Tiling (c : Cut) : List Interval → Cut → Prop
  | [], d => c = d
  | i :: is, d => i.lowerCut = c ∧ i.lowerCut < i.upperCut ∧ Tiling i.upperCut is d

namespace Tiling

variable {c d : Cut} {is : List Interval}

/-! ## What a tiling says of the whole list -/

/-- Every interval of a tiling starts before it ends. -/
theorem lowerCut_lt_upperCut (h : Tiling c is d) {i : Interval} (hi : i ∈ is) :
    i.lowerCut < i.upperCut := by
  induction is generalizing c with
  | nil => cases hi
  | cons j is ih =>
      obtain ⟨-, hj, hrest⟩ := h
      rcases List.mem_cons.mp hi with rfl | hi
      · exact hj
      · exact ih hrest hi

/-- No interval of a tiling starts before the stretch does. -/
theorem le_lowerCut (h : Tiling c is d) {i : Interval} (hi : i ∈ is) : c ≤ i.lowerCut := by
  induction is generalizing c with
  | nil => cases hi
  | cons j is ih =>
      obtain ⟨rfl, hj, hrest⟩ := h
      rcases List.mem_cons.mp hi with rfl | hi
      · exact le_refl _
      · exact hj.le.trans (ih hrest hi)

/-- The stretch of a tiling does not end before it starts. -/
theorem le (h : Tiling c is d) : c ≤ d := by
  induction is generalizing c with
  | nil => exact le_of_eq h
  | cons i is ih =>
      obtain ⟨rfl, hi, hrest⟩ := h
      exact hi.le.trans (ih hrest)

/-- No interval of a tiling ends after the stretch does. -/
theorem upperCut_le (h : Tiling c is d) {i : Interval} (hi : i ∈ is) : i.upperCut ≤ d := by
  induction is generalizing c with
  | nil => cases hi
  | cons j is ih =>
      obtain ⟨-, -, hrest⟩ := h
      rcases List.mem_cons.mp hi with rfl | hi
      · exact hrest.le
      · exact ih hrest hi

/-- **Of two intervals of a tiling the earlier ends before the later starts.** -/
theorem pairwise (h : Tiling c is d) : is.Pairwise fun a b => a.upperCut ≤ b.lowerCut := by
  induction is generalizing c with
  | nil => exact List.Pairwise.nil
  | cons i is ih =>
      obtain ⟨-, -, hrest⟩ := h
      exact List.pairwise_cons.mpr ⟨fun b hb => hrest.le_lowerCut hb, ih hrest⟩

/-- The interval in an earlier place ends before the one in a later place starts. -/
theorem upperCut_le_lowerCut (h : Tiling c is d) {k l : Nat} {i j : Interval}
    (hi : is[k]? = some i) (hj : is[l]? = some j) (hkl : k < l) : i.upperCut ≤ j.lowerCut := by
  obtain ⟨hk, rfl⟩ := List.getElem?_eq_some_iff.mp hi
  obtain ⟨hl, rfl⟩ := List.getElem?_eq_some_iff.mp hj
  exact List.pairwise_iff_getElem.mp h.pairwise k l hk hl hkl

/-- **Every cut of the stretch lies in an interval of the tiling.** -/
theorem exists_getElem? (h : Tiling c is d) {e : Cut} (hce : c ≤ e) (hed : e < d) :
    ∃ (k : Nat) (i : Interval), is[k]? = some i ∧ i.lowerCut ≤ e ∧ e < i.upperCut := by
  induction is generalizing c with
  | nil => exact absurd hed (not_lt.mpr (h ▸ hce))
  | cons i is ih =>
      obtain ⟨rfl, -, hrest⟩ := h
      by_cases he : e < i.upperCut
      · exact ⟨0, i, rfl, hce, he⟩
      · obtain ⟨k, j, hj, hlower, hupper⟩ := ih hrest (not_lt.mp he)
        exact ⟨k + 1, j, hj, hlower, hupper⟩

/-- A tiling of the whole line covers every point. -/
theorem exists_mem_points (h : Tiling (Cut.before ⊥) is (Cut.after ⊤)) (x : EReal) :
    ∃ i ∈ is, x ∈ i.points := by
  obtain ⟨k, i, hi, hlower, hupper⟩ :=
    h.exists_getElem? (Cut.before_bot_le (Cut.before x)) (Cut.before_lt_after.mpr le_top)
  exact ⟨i, List.mem_of_getElem? hi, Interval.mem_points_iff.mpr ⟨hlower, hupper⟩⟩

/-- An interval of a tiling starts with the stretch or where another interval ends. -/
theorem exists_upperCut_eq (h : Tiling c is d) {i : Interval} (hi : i ∈ is) :
    i.lowerCut = c ∨ ∃ j ∈ is, j.upperCut = i.lowerCut := by
  induction is generalizing c with
  | nil => cases hi
  | cons k is ih =>
      obtain ⟨hk, -, hrest⟩ := h
      rcases List.mem_cons.mp hi with rfl | hi
      · exact Or.inl hk
      · rcases ih hrest hi with heq | ⟨j, hj, heq⟩
        · exact Or.inr ⟨k, List.mem_cons_self, heq.symm⟩
        · exact Or.inr ⟨j, List.mem_cons_of_mem _ hj, heq⟩

/-- An interval of a tiling ends with the stretch or where another interval starts. -/
theorem exists_lowerCut_eq (h : Tiling c is d) {i : Interval} (hi : i ∈ is) :
    i.upperCut = d ∨ ∃ j ∈ is, j.lowerCut = i.upperCut := by
  induction is generalizing c with
  | nil => cases hi
  | cons k is ih =>
      obtain ⟨-, -, hrest⟩ := h
      rcases List.mem_cons.mp hi with rfl | hi
      · cases is with
        | nil => exact Or.inl hrest
        | cons j is => exact Or.inr ⟨j, List.mem_cons_of_mem _ List.mem_cons_self, hrest.1⟩
      · rcases ih hrest hi with heq | ⟨j, hj, heq⟩
        · exact Or.inl heq
        · exact Or.inr ⟨j, List.mem_cons_of_mem _ hj, heq⟩

/-- The last interval of a tiling ends with the stretch. -/
theorem getLast_upperCut (h : Tiling c is d) (hne : is ≠ []) :
    (is.getLast hne).upperCut = d := by
  induction is generalizing c with
  | nil => exact absurd rfl hne
  | cons i is ih =>
      obtain ⟨-, -, hrest⟩ := h
      cases is with
      | nil => exact hrest
      | cons j is => rw [List.getLast_cons (List.cons_ne_nil j is), ih hrest]

end Tiling

/-! ## Tilings from covers -/

/-- **Separate intervals that miss no point of a stretch tile it.** A hole before the next interval
would hold a point, and neither that interval nor any later one could cover it. -/
theorem tiling_of_cover {c d : Cut} {is : List Interval}
    (hne : ∀ i ∈ is, i.lowerCut < i.upperCut)
    (hsep : is.Pairwise fun a b => a.upperCut ≤ b.lowerCut)
    (hc : ∀ i ∈ is, c ≤ i.lowerCut) (hd : ∀ i ∈ is, i.upperCut ≤ d) (hcd : c ≤ d)
    (hcover : ∀ x, c ≤ Cut.before x → Cut.before x < d → ∃ i ∈ is, x ∈ i.points) :
    Tiling c is d := by
  induction is generalizing c with
  | nil =>
      refine hcd.eq_or_lt.resolve_right fun hlt => ?_
      obtain ⟨x, hcx, hxd⟩ := Cut.exists_before_between hlt
      obtain ⟨i, hi, -⟩ := hcover x hcx hxd
      cases hi
  | cons i is ih =>
      obtain ⟨hi, hne⟩ := List.forall_mem_cons.mp hne
      obtain ⟨hci, -⟩ := List.forall_mem_cons.mp hc
      obtain ⟨hid, hd⟩ := List.forall_mem_cons.mp hd
      obtain ⟨hsepi, hsep⟩ := List.pairwise_cons.mp hsep
      have hstart : c = i.lowerCut := by
        refine hci.eq_or_lt.resolve_right fun hlt => ?_
        -- a point between `c` and the start of `i` has to lie in `i` or in a later interval
        obtain ⟨x, hcx, hxi⟩ := Cut.exists_before_between hlt
        obtain ⟨j, hj, hxj⟩ := hcover x hcx (hxi.trans (hi.trans_le hid))
        have hjx : j.lowerCut ≤ Cut.before x := (Interval.mem_points_iff.mp hxj).1
        rcases List.mem_cons.mp hj with rfl | hj
        · exact absurd hjx (not_le.mpr hxi)
        · exact absurd ((hi.le.trans (hsepi j hj)).trans hjx) (not_le.mpr hxi)
      refine ⟨hstart.symm, hi, ih hne hsep hsepi hd hid fun x hix hxd => ?_⟩
      -- what lies behind `i` is covered, and not by `i`
      obtain ⟨j, hj, hxj⟩ := hcover x (hci.trans (hi.le.trans hix)) hxd
      rcases List.mem_cons.mp hj with rfl | hj
      · exact absurd hix (not_le.mpr (Interval.mem_points_iff.mp hxj).2)
      · exact ⟨j, hj, hxj⟩

/-! ## The search for a defect -/

namespace LabelPartition

/-- **Proper intervals have no defect between neighbours exactly when they tile** the stretch from
the start of the first to the end of the last. -/
theorem firstSeamDefect_eq_none_iff {first : Interval} {rest : List Interval}
    (hproper : ∀ i ∈ first :: rest, i.Proper)
    (hne : ∀ i ∈ first :: rest, i.lowerCut < i.upperCut) :
    firstSeamDefect (first :: rest) = none ↔
      Tiling first.lowerCut (first :: rest)
        ((first :: rest).getLast (List.cons_ne_nil _ _)).upperCut := by
  induction rest generalizing first with
  | nil => exact iff_of_true rfl ⟨rfl, hne first List.mem_cons_self, rfl⟩
  | cons next rest ih =>
      obtain ⟨hfirst, hproper⟩ := List.forall_mem_cons.mp hproper
      obtain ⟨hlt, hne⟩ := List.forall_mem_cons.mp hne
      have hseam := Interval.seamDefect_eq_none_iff hfirst (hproper next List.mem_cons_self)
      rw [firstSeamDefect, List.getLast_cons (List.cons_ne_nil _ _)]
      split
      · next defect hdefect =>
        refine iff_of_false nofun fun ⟨_, _, hrest⟩ => ?_
        rw [hseam.mpr hrest.1.symm] at hdefect
        cases hdefect
      · next hnone =>
        rw [ih hproper hne, ← hseam.mp hnone]
        exact ⟨fun h => ⟨rfl, hlt, h⟩, fun ⟨_, _, h⟩ => h⟩

/-- The outer ends have no defect exactly when they are the two infinities. -/
theorem outerDefect_eq_none_iff (first last : Interval) :
    outerDefect first last = none ↔ first.lower = .negInfinity ∧ last.upper = .infinity := by
  rw [outerDefect, ← Binary64.equals_negInfinity_iff, ← Binary64.equals_infinity_iff]
  cases first.lower.equals .negInfinity <;> cases last.upper.equals .infinity <;> simp

/-- **Proper intervals have no defect exactly when they tile the whole line.** -/
theorem defect?_eq_none_iff {is : List Interval} (hproper : ∀ i ∈ is, i.Proper)
    (hne : ∀ i ∈ is, i.lowerCut < i.upperCut) :
    defect? is = none ↔ Tiling (Cut.before ⊥) is (Cut.after ⊤) := by
  cases is with
  | nil => exact iff_of_false nofun fun h => absurd h (by simp [Tiling, Cut.before, Cut.after])
  | cons first rest =>
      have hfirst := hproper first List.mem_cons_self
      have hlast := hproper _ (List.getLast_mem (List.cons_ne_nil first rest))
      rw [defect?, Option.or_eq_none_iff, firstSeamDefect_eq_none_iff hproper hne,
        outerDefect_eq_none_iff, ← hfirst.lowerCut_eq_before_bot_iff,
        ← hlast.upperCut_eq_after_top_iff]
      constructor
      · rintro ⟨h, hbot, htop⟩
        rw [hbot, htop] at h
        exact h
      · intro h
        have hbot := h.1
        have htop := h.getLast_upperCut (List.cons_ne_nil _ _)
        exact ⟨by rw [hbot, htop]; exact h, hbot, htop⟩

end LabelPartition

end CubeAssessment
