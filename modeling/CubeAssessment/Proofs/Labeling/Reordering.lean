import CubeAssessment.Proofs.Labeling.Classification
import CubeAssessment.Proofs.Labeling.Defects
import Mathlib.Algebra.Group.End

/-! # Rules in another order

Compiling sorts by where intervals start, and intervals that start together keep the order of their
rules, so rules in another order may be looked at in another order too. Yet nothing depends on it
but the numbers of the rules. The seam between intervals that start together is an overlap whichever
of them comes first, and up to the first such seam the starts alone determine the order
(`rel_firstSeamDefect`); without any, they determine all of it (`eq_map_renumber`). So rules in
another order compile to the same intervals, under their new numbers, or fail with the same defect
(`compile_perm`). -/

namespace CubeAssessment

/-! ## Lists in another order -/

/-- **A list in another order**: what has the place `k` in `xs` has the place `σ k` in `ys`. -/
def Rearranges {α : Type} (σ : Equiv.Perm ℕ) (xs ys : List α) : Prop :=
  ∀ k, ys[σ k]? = xs[k]?

/-- The same change of places behind a first place that is kept. -/
def keepFirst (σ : Equiv.Perm ℕ) : Equiv.Perm ℕ where
  toFun
    | 0 => 0
    | k + 1 => σ k + 1
  invFun
    | 0 => 0
    | k + 1 => σ.symm k + 1
  left_inv k := by cases k <;> simp
  right_inv k := by cases k <;> simp

/-- **Every permutation of a list is the list in another order.** -/
theorem exists_rearranges {α : Type} {xs ys : List α} (h : xs.Perm ys) :
    ∃ σ, Rearranges σ xs ys := by
  induction h with
  | nil => exact ⟨1, fun _ => rfl⟩
  | cons x _ ih =>
      obtain ⟨σ, hσ⟩ := ih
      refine ⟨keepFirst σ, fun k => ?_⟩
      cases k with
      | zero => rfl
      | succ k => exact hσ k
  | swap x y zs =>
      refine ⟨Equiv.swap 0 1, fun k => ?_⟩
      match k with
      | 0 => rfl
      | 1 => rfl
      | k + 2 => rw [Equiv.swap_apply_of_ne_of_ne (by omega) (by omega)]; rfl
  | trans _ _ ih ih' =>
      obtain ⟨σ, hσ⟩ := ih
      obtain ⟨σ', hσ'⟩ := ih'
      exact ⟨σ.trans σ', fun k => (hσ' (σ k)).trans (hσ k)⟩

namespace Rearranges

variable {α : Type} {σ : Equiv.Perm ℕ} {xs ys : List α}

/-- The other order is undone by the inverse permutation. -/
theorem symm (h : Rearranges σ xs ys) : Rearranges σ.symm ys xs := fun k => by
  rw [← h, σ.apply_symm_apply]

/-- A list in another order has the same members. -/
theorem mem_iff (h : Rearranges σ xs ys) {x : α} : x ∈ ys ↔ x ∈ xs := by
  rw [List.mem_iff_getElem?, List.mem_iff_getElem?, σ.surjective.exists]
  simp only [h _]

end Rearranges

/-! ## Intervals under other numbers -/

namespace Interval

/-- An interval with its rule counted otherwise. -/
def renumber (σ : ℕ → ℕ) (i : Interval) : Interval := { i with rule := σ i.rule }

variable {σ : ℕ → ℕ} {i : Interval}

@[simp] theorem lowerCut_renumber : (i.renumber σ).lowerCut = i.lowerCut := rfl

@[simp] theorem upperCut_renumber : (i.renumber σ).upperCut = i.upperCut := rfl

/-- A proper interval is proper under every number. -/
theorem Proper.renumber (h : i.Proper) : (i.renumber σ).Proper :=
  ⟨h.lower, h.upper, h.lowerInclusive_of_bot, h.upperInclusive_of_top⟩

/-- **A rule is read alike at every position**, which only numbers its interval. -/
theorem ofRule_eq_ok_of_ofRule {r : LabelingRule} {k l : ℕ} (h : ofRule k r = .ok i) :
    ofRule l r = .ok { i with rule := l } := by
  obtain ⟨⟨hlower, hupper, hleft, hright, hlabel⟩, -, hempty⟩ := ofRule_eq_ok_iff.mp h
  exact ofRule_eq_ok_iff.mpr ⟨⟨hlower, hupper, hleft, hright, hlabel⟩, rfl, hempty⟩

/-- **What is wrong at a seam depends on the two cuts there.** -/
theorem seamDefect_congr {a b a' b' : Interval} (ha : a.Proper) (hb : b.Proper) (ha' : a'.Proper)
    (hb' : b'.Proper) (hend : a.upperCut = a'.upperCut) (hstart : b.lowerCut = b'.lowerCut) :
    a.seamDefect b = a'.seamDefect b' := by
  ext defect
  rw [seamDefect_eq_some_iff ha hb, seamDefect_eq_some_iff ha' hb', hend, hstart]

/-- **Of two intervals that start together the first overlaps the second.** -/
theorem seamDefect_of_lowerCut_eq {a b : Interval} (ha : a.Proper) (hb : b.Proper)
    (hlt : a.lowerCut < a.upperCut) (h : b.lowerCut = a.lowerCut) :
    a.seamDefect b = some .overlap :=
  (seamDefect_eq_some_iff ha hb).mpr (Or.inl ⟨rfl, h.trans_lt hlt⟩)

end Interval

/-- Two labeling errors report the same defect of a list of rules, each of some rule. -/
def LabelingError.SameDefect (e e' : LabelingError) : Prop :=
  ∃ k k' defect, e = .invalidPartition k defect ∧ e' = .invalidPartition k' defect

namespace LabelPartition

variable {rules rules' : List LabelingRule} {is is' xs ys : List Interval} {σ : Equiv.Perm ℕ}

/-! ## Reading in another order -/

/-- The intervals read are those that the rules they point to are read as. -/
theorem mem_intervalsFrom_iff (h : intervalsFrom 0 rules = .ok is) {i : Interval} :
    i ∈ is ↔ ∃ r, rules[i.rule]? = some r ∧ Interval.ofRule i.rule r = .ok i := by
  rw [intervalsFrom_eq_mapM] at h
  rw [mem_of_mapM_eq_ok_iff h]
  constructor
  · rintro ⟨⟨r, k⟩, hmem, hi⟩
    obtain ⟨-, rfl, -⟩ := Interval.ofRule_eq_ok_iff.mp hi
    exact ⟨r, List.mem_zipIdx_iff_getElem?.mp hmem, hi⟩
  · rintro ⟨r, hr, hi⟩
    exact ⟨(r, i.rule), List.mem_zipIdx_iff_getElem?.mpr hr, hi⟩

/-- **A list of rules is read exactly when each rule is read by itself.** -/
theorem exists_intervalsFrom_eq_ok_iff : (∃ is, intervalsFrom 0 rules = .ok is) ↔
    ∀ r ∈ rules, ∃ i, Interval.ofRule 0 r = .ok i := by
  simp only [intervalsFrom_eq_mapM, exists_mapM_eq_ok_iff]
  constructor
  · intro h r hr
    obtain ⟨k, hk⟩ := List.mem_iff_getElem?.mp hr
    obtain ⟨i, hi⟩ := h (r, k) (List.mem_zipIdx_iff_getElem?.mpr hk)
    exact ⟨_, Interval.ofRule_eq_ok_of_ofRule hi⟩
  · rintro h ⟨r, k⟩ hmem
    obtain ⟨i, hi⟩ := h r (List.mem_of_getElem? (List.mem_zipIdx_iff_getElem?.mp hmem))
    exact ⟨_, Interval.ofRule_eq_ok_of_ofRule hi⟩

/-- **Rules in another order are read as the same intervals** under their new numbers, in another
order. -/
theorem perm_map_renumber (hσ : Rearranges σ rules rules') (h : intervalsFrom 0 rules = .ok is)
    (h' : intervalsFrom 0 rules' = .ok is') : is'.Perm (is.map (Interval.renumber σ)) := by
  have hnodup : ∀ {rules : List LabelingRule} {is : List Interval},
      intervalsFrom 0 rules = .ok is → (is.map Interval.rule).Nodup := by
    intro rules is h
    rw [(intervalsFrom_eq_ok_iff_carryAll.mp h).1.map_rule]
    exact List.nodup_range'
  have hrenumbered : (is.map (Interval.renumber σ)).Nodup := by
    refine List.Nodup.of_map Interval.rule ?_
    have hrules : (is.map (Interval.renumber σ)).map Interval.rule =
        (is.map Interval.rule).map σ := by
      rw [List.map_map, List.map_map]
      rfl
    rw [hrules]
    exact (hnodup h).map σ.injective
  refine (List.perm_ext_iff_of_nodup (hnodup h').of_map hrenumbered).mpr fun j => ?_
  rw [mem_intervalsFrom_iff h', List.mem_map]
  constructor
  · rintro ⟨r, hr, hj⟩
    -- the rule stood at the place that `σ` sends here
    have hplace : rules[σ.symm j.rule]? = some r := by rw [← hσ, σ.apply_symm_apply, hr]
    have hi := Interval.ofRule_eq_ok_of_ofRule (l := σ.symm j.rule) hj
    refine ⟨j.renumber σ.symm, (mem_intervalsFrom_iff h).mpr ⟨r, hplace, hi⟩, ?_⟩
    rw [Interval.renumber, Interval.renumber, σ.apply_symm_apply]
  · rintro ⟨i, hi, rfl⟩
    obtain ⟨r, hr, hread⟩ := (mem_intervalsFrom_iff h).mp hi
    have hread' := Interval.ofRule_eq_ok_of_ofRule (l := σ i.rule) hread
    exact ⟨r, (hσ i.rule).trans hr, hread'⟩

/-! ## Sorted intervals -/

/-- Seams that are equally bad decide alike, and if they are good the search goes on. -/
theorem rel_firstSeamDefect_cons {a b next next' : Interval}
    (hseam : a.seamDefect next = b.seamDefect next')
    (hrest : a.seamDefect next = none → Option.Rel LabelingError.SameDefect
      (firstSeamDefect (next :: xs)) (firstSeamDefect (next' :: ys))) :
    Option.Rel LabelingError.SameDefect (firstSeamDefect (a :: next :: xs))
      (firstSeamDefect (b :: next' :: ys)) := by
  rw [firstSeamDefect, firstSeamDefect, ← hseam]
  cases h : a.seamDefect next with
  | some defect => exact .some ⟨_, _, _, rfl, rfl⟩
  | none => exact hrest h

/-- Alternatives are related when the first ones are, and, if there are none, the second ones. -/
theorem rel_or {α β : Type} {r : α → β → Prop} {x y : Option α} {x' y' : Option β}
    (hx : Option.Rel r x x') (hy : x = none → Option.Rel r y y') :
    Option.Rel r (x.or y) (x'.or y') := by
  cases hx with
  | some h => exact .some h
  | none => exact hy rfl

/-- The outer ends are as bad under other numbers. -/
theorem rel_outerDefect (σ : ℕ → ℕ) (first last : Interval) : Option.Rel LabelingError.SameDefect
    (outerDefect first last) (outerDefect (first.renumber σ) (last.renumber σ)) := by
  unfold outerDefect
  change Option.Rel _ _ (if !first.lower.equals .negInfinity then _ else
    if !last.upper.equals .infinity then _ else _)
  split
  · exact .some ⟨_, _, _, rfl, rfl⟩
  · split
    · exact .some ⟨_, _, _, rfl, rfl⟩
    · exact .none

/-- The interval that starts before all others comes first in either order. -/
theorem head_eq_renumber {a b : Interval} (hperm : (b :: ys).Perm ((a :: xs).map (.renumber σ)))
    (hb : b.lowerCut = a.lowerCut) (hbelow : ∀ i ∈ xs, a.lowerCut < i.lowerCut) :
    b = a.renumber σ := by
  obtain ⟨i, hi, rfl⟩ := List.mem_map.mp (hperm.mem_iff.mp List.mem_cons_self)
  rcases List.mem_cons.mp hi with rfl | hi
  · rfl
  · exact absurd hb (hbelow i hi).ne'

section Sorted

variable (hperm : ys.Perm (xs.map (Interval.renumber σ))) (hproper : ∀ i ∈ xs, i.Proper)
  (hlt : ∀ i ∈ xs, i.lowerCut < i.upperCut)

include hperm hproper hlt in
/-- Intervals are proper and have points under other numbers. -/
theorem proper_and_lt_of_perm :
    (∀ j ∈ ys, j.Proper) ∧ ∀ j ∈ ys, j.lowerCut < j.upperCut := by
  have hmem : ∀ j ∈ ys, ∃ i ∈ xs, i.renumber σ = j := fun j hj =>
    List.mem_map.mp (hperm.mem_iff.mp hj)
  constructor
  · intro j hj
    obtain ⟨i, hi, rfl⟩ := hmem j hj
    exact (hproper i hi).renumber
  · intro j hj
    obtain ⟨i, hi, rfl⟩ := hmem j hj
    exact hlt i hi

variable (hxs : xs.Pairwise fun a b => a.lowerCut ≤ b.lowerCut)
  (hys : ys.Pairwise fun a b => a.lowerCut ≤ b.lowerCut)

include hperm hxs hys

/-- Sorted intervals start where they do under other numbers. -/
theorem map_lowerCut_eq : ys.map Interval.lowerCut = xs.map Interval.lowerCut := by
  have hcuts : (xs.map (Interval.renumber σ)).map Interval.lowerCut =
      xs.map Interval.lowerCut := by
    rw [List.map_map]
    exact List.map_congr_left fun i _ => Interval.lowerCut_renumber
  exact (hcuts ▸ hperm.map Interval.lowerCut).eq_of_pairwise (fun _ _ _ _ => le_antisymm)
    (List.pairwise_map.mpr hys) (List.pairwise_map.mpr hxs)

include hproper hlt

/-- **Sorted intervals without a bad seam stand in the same order under other numbers**: no two of
them start together. -/
theorem eq_map_renumber (hnone : firstSeamDefect xs = none) :
    ys = xs.map (Interval.renumber σ) := by
  have hstarts : (xs.map Interval.lowerCut).Nodup := by
    refine List.pairwise_map.mpr ?_
    refine (pairwise_of_firstSeamDefect hproper hlt hnone).imp_of_mem fun {a b} ha _ hab => ?_
    exact ((hlt a ha).trans_le hab).ne
  refine hperm.eq_of_pairwise (fun a b ha hb hab hba => ?_) hys (List.pairwise_map.mpr hxs)
  obtain ⟨i, hi, rfl⟩ := List.mem_map.mp (hperm.mem_iff.mp ha)
  obtain ⟨j, hj, rfl⟩ := List.mem_map.mp hb
  rw [List.inj_on_of_nodup_map hstarts hi hj (le_antisymm hab hba)]

omit hperm hproper hlt hxs hys in
/-- **The first seam is as bad under other numbers**, and if it is good the first interval is the
same. Of two intervals that start together the first overlaps the second, whichever it is; and an
interval that starts before all others comes first in either order. -/
theorem seamDefect_eq_of_perm {a b next next' : Interval}
    (hperm : (b :: next' :: ys).Perm ((a :: next :: xs).map (Interval.renumber σ)))
    (hproper : ∀ i ∈ a :: next :: xs, i.Proper)
    (hlt : ∀ i ∈ a :: next :: xs, i.lowerCut < i.upperCut)
    (hxs : (a :: next :: xs).Pairwise fun a b => a.lowerCut ≤ b.lowerCut)
    (hys : (b :: next' :: ys).Pairwise fun a b => a.lowerCut ≤ b.lowerCut) :
    a.seamDefect next = b.seamDefect next' ∧
      (a.seamDefect next = none → b = a.renumber σ) := by
  have hcuts := map_lowerCut_eq hperm hxs hys
  obtain ⟨hb, hcuts⟩ := List.cons.inj hcuts
  obtain ⟨hnext, -⟩ := List.cons.inj hcuts
  obtain ⟨hproper', hlt'⟩ := proper_and_lt_of_perm hperm hproper hlt
  have ha_proper := hproper a (by simp)
  have hb_proper := hproper' b (by simp)
  have hnext_proper := hproper next (by simp)
  have hnext_proper' := hproper' next' (by simp)
  by_cases htie : next.lowerCut = a.lowerCut
  · -- two intervals start together, in either order
    have hoverlap := Interval.seamDefect_of_lowerCut_eq ha_proper hnext_proper
      (hlt a List.mem_cons_self) htie
    have hoverlap' := Interval.seamDefect_of_lowerCut_eq hb_proper hnext_proper'
      (hlt' b List.mem_cons_self) (by rw [hnext, htie, hb])
    rw [hoverlap, hoverlap']
    exact ⟨rfl, nofun⟩
  · -- `a` starts alone, so it comes first under its new number too
    obtain ⟨hfirst, hrest⟩ := List.pairwise_cons.mp hxs
    have hlt_next : a.lowerCut < next.lowerCut :=
      (hfirst next List.mem_cons_self).lt_of_ne' htie
    have hbelow : ∀ i ∈ next :: xs, a.lowerCut < i.lowerCut :=
      List.forall_mem_cons.mpr ⟨hlt_next, fun i hi =>
        hlt_next.trans_le ((List.pairwise_cons.mp hrest).1 i hi)⟩
    obtain rfl := head_eq_renumber hperm hb hbelow
    exact ⟨Interval.seamDefect_congr ha_proper hnext_proper hb_proper hnext_proper'
      Interval.upperCut_renumber.symm hnext.symm, fun _ => rfl⟩

/-- **The first bad seam is as bad under other numbers.** -/
theorem rel_firstSeamDefect :
    Option.Rel LabelingError.SameDefect (firstSeamDefect xs) (firstSeamDefect ys) := by
  induction xs generalizing ys with
  | nil =>
      rw [List.map_nil, List.perm_nil] at hperm
      rw [hperm]
      exact .none
  | cons a xs ih =>
      cases xs with
      | nil =>
          rw [List.map_singleton, List.perm_singleton] at hperm
          rw [hperm]
          exact .none
      | cons next xs =>
          obtain ⟨b, next', ys, rfl⟩ : ∃ b next' rest, ys = b :: next' :: rest := by
            have hlength := hperm.length_eq
            match ys, hlength with
            | b :: next' :: ys, _ => exact ⟨b, next', ys, rfl⟩
          obtain ⟨hseam, hhead⟩ := seamDefect_eq_of_perm hperm hproper hlt hxs hys
          refine rel_firstSeamDefect_cons hseam fun hnone => ?_
          rw [hhead hnone] at hperm
          exact ih (List.Perm.cons_inv hperm) (List.forall_mem_cons.mp hproper).2
            (List.forall_mem_cons.mp hlt).2 (List.pairwise_cons.mp hxs).2
            (List.pairwise_cons.mp hys).2

/-- **Sorted intervals have the same defect under other numbers.** -/
theorem rel_defect? : Option.Rel LabelingError.SameDefect (defect? xs) (defect? ys) := by
  have hseam := rel_firstSeamDefect hperm hproper hlt hxs hys
  have hsame := eq_map_renumber hperm hproper hlt hxs hys
  cases xs with
  | nil =>
      rw [List.map_nil, List.perm_nil] at hperm
      rw [hperm]
      exact .some ⟨0, 0, .empty, rfl, rfl⟩
  | cons first rest =>
      obtain ⟨first', rest', rfl⟩ : ∃ first' rest', ys = first' :: rest' :=
        List.exists_cons_of_length_eq_add_one hperm.length_eq
      refine rel_or hseam fun hnone => ?_
      -- without a bad seam the outer intervals are the same
      obtain ⟨rfl, rfl⟩ := List.cons.inj (hsame hnone)
      have hlast : (first.renumber σ :: rest.map (Interval.renumber σ)).getLast
          (List.cons_ne_nil _ _) =
          ((first :: rest).getLast (List.cons_ne_nil _ _)).renumber σ :=
        List.getLast_map (l := first :: rest) (by simp)
      rw [hlast]
      exact rel_outerDefect σ _ _

end Sorted

/-! ## Compiling in another order -/

/-- **The sorted intervals of rules in another order** are those of the rules under their new
numbers. -/
theorem perm_mergeSort (hσ : Rearranges σ rules rules') (h : intervalsFrom 0 rules = .ok is)
    (h' : intervalsFrom 0 rules' = .ok is') : (is'.mergeSort Interval.startsFirst).Perm
      ((is.mergeSort Interval.startsFirst).map (Interval.renumber σ)) :=
  (List.mergeSort_perm is' _).trans ((perm_map_renumber hσ h h').trans
    ((List.mergeSort_perm is _).symm.map _))

/-- Rules in another order that are read have the same defect. -/
theorem rel_defect?_mergeSort (hσ : Rearranges σ rules rules')
    (h : intervalsFrom 0 rules = .ok is) (h' : intervalsFrom 0 rules' = .ok is') :
    Option.Rel LabelingError.SameDefect (defect? (is.mergeSort Interval.startsFirst))
      (defect? (is'.mergeSort Interval.startsFirst)) := by
  have harranges := arranges_mergeSort h
  exact rel_defect? (perm_mergeSort hσ h h') harranges.proper harranges.lt harranges.sorted
    (arranges_mergeSort h').sorted

/-- Intervals without a defect have no bad seam. -/
theorem firstSeamDefect_of_defect? (h : defect? is = none) : firstSeamDefect is = none := by
  cases is with
  | nil => rfl
  | cons first rest => exact (Option.or_eq_none_iff.mp h).1

/-- The error of rules that are read is the defect of their sorted intervals. -/
theorem defect?_of_compile (h : intervalsFrom 0 rules = .ok is) {e : LabelingError}
    (he : compile rules = .error e) : defect? (is.mergeSort Interval.startsFirst) = some e := by
  rcases compile_eq_error_iff.mp he with hread | ⟨js, hread, hdefect⟩
  · cases h.symm.trans hread
  · cases h.symm.trans hread
    exact hdefect

/-- Rules are read in every order when they are in one. -/
theorem exists_intervalsFrom_of_rearranges (hσ : Rearranges σ rules rules')
    (h : intervalsFrom 0 rules = .ok is) : ∃ is', intervalsFrom 0 rules' = .ok is' := by
  have hreadable := exists_intervalsFrom_eq_ok_iff.mp ⟨is, h⟩
  exact exists_intervalsFrom_eq_ok_iff.mpr fun r hr => hreadable r (hσ.mem_iff.mp hr)

/-- **Rules that are read fail with the same defect in every order.** -/
theorem sameDefect_of_rearranges (hσ : Rearranges σ rules rules')
    (hread : intervalsFrom 0 rules = .ok is) {e e' : LabelingError}
    (he : compile rules = .error e) (he' : compile rules' = .error e') : e.SameDefect e' := by
  obtain ⟨is', hread'⟩ := exists_intervalsFrom_of_rearranges hσ hread
  have hrel := rel_defect?_mergeSort hσ hread hread'
  rw [defect?_of_compile hread he, defect?_of_compile hread' he'] at hrel
  cases hrel with
  | some hsame => exact hsame

/-- **Rules compile in every order when they do in one**, to the same intervals under their new
numbers. -/
theorem exists_compile_of_rearranges (hσ : Rearranges σ rules rules') {p : LabelPartition}
    (hp : compile rules = .ok p) : ∃ p', compile rules' = .ok p' ∧
      p'.intervals.toList = p.intervals.toList.map (Interval.renumber σ) := by
  obtain ⟨is, hread, hnone, rfl⟩ := compile_eq_ok_iff.mp hp
  obtain ⟨is', hread'⟩ := exists_intervalsFrom_of_rearranges hσ hread
  have hrel := rel_defect?_mergeSort hσ hread hread'
  have hnone' : defect? (is'.mergeSort Interval.startsFirst) = none := by
    rw [hnone] at hrel
    cases hdefect : defect? (is'.mergeSort Interval.startsFirst) with
    | none => rfl
    | some e =>
        rw [hdefect] at hrel
        cases hrel
  have harranges := arranges_mergeSort hread
  exact ⟨_, compile_eq_ok_iff.mpr ⟨is', hread', hnone', rfl⟩,
    eq_map_renumber (perm_mergeSort hσ hread hread') harranges.proper harranges.lt
      harranges.sorted (arranges_mergeSort hread').sorted (firstSeamDefect_of_defect? hnone)⟩

/-- **Compiling does not depend on the order of the rules.** Of a list of rules and a permutation of
it both compile or neither does. If they do, the intervals are the same in the same order, each with
its rule counted where the permutation put it, and every value is classified alike. If every rule
can be read by itself and they do not, they fail with the same defect, of one rule or another: an
overlap, a gap or an open end, unless there are no rules at all. -/
theorem compile_perm (h : rules.Perm rules') :
    (∃ σ, Rearranges σ rules rules') ∧
    ((∃ p, compile rules = .ok p) ↔ ∃ p', compile rules' = .ok p') ∧
    (∀ p p', compile rules = .ok p → compile rules' = .ok p' →
      (∀ σ, Rearranges σ rules rules' →
        p'.intervals.toList = p.intervals.toList.map fun i => { i with rule := σ i.rule }) ∧
      ∀ v, p'.classify v = p.classify v) ∧
    ((∀ r ∈ rules, ∃ i, Interval.ofRule 0 r = .ok i) →
      ∀ e e', compile rules = .error e → compile rules' = .error e' →
        ∃ k k' defect, e = .invalidPartition k defect ∧ e' = .invalidPartition k' defect ∧
          (rules ≠ [] → defect = .overlap ∨ defect = .gap ∨ defect = .notTotal)) := by
  obtain ⟨σ, hσ⟩ := exists_rearranges h
  refine ⟨⟨σ, hσ⟩, ⟨?_, ?_⟩, fun p p' hp hp' => ?_, fun hreadable e e' he he' => ?_⟩
  · rintro ⟨p, hp⟩
    obtain ⟨p', hp', -⟩ := exists_compile_of_rearranges hσ hp
    exact ⟨p', hp'⟩
  · rintro ⟨p', hp'⟩
    obtain ⟨p, hp, -⟩ := exists_compile_of_rearranges hσ.symm hp'
    exact ⟨p, hp⟩
  · have hsame : ∀ σ, Rearranges σ rules rules' →
        p'.intervals.toList = p.intervals.toList.map (Interval.renumber σ) := by
      intro σ hσ
      obtain ⟨q, hq, hsame⟩ := exists_compile_of_rearranges hσ hp
      cases hq.symm.trans hp'
      exact hsame
    have hget : ∀ k : ℕ, p'.intervals[k]? = p.intervals[k]?.map fun i : Interval =>
        { i with rule := σ i.rule } := by
      intro k
      rw [← Array.getElem?_toList, hsame σ hσ, List.getElem?_map, Array.getElem?_toList]
      rfl
    exact ⟨hsame, classify_congr hget⟩
  · obtain ⟨is, hread⟩ := exists_intervalsFrom_eq_ok_iff.mpr hreadable
    have hdefect := defect?_of_compile hread he
    obtain ⟨k, k', defect, rfl, rfl⟩ := sameDefect_of_rearranges hσ hread he he'
    refine ⟨k, k', defect, rfl, rfl, fun hne => ?_⟩
    have harranges := arranges_mergeSort hread
    obtain ⟨_, _, heq, hkind, -⟩ := harranges.holds_of_defect? (harranges.ne_nil hne) hdefect
    cases heq
    exact hkind

/-- Rules around zero compile in two orders, counted otherwise; with two rules above zero they
overlap in both orders, where different rules are blamed. -/
theorem compile_perm_around_zero :
    (∃ p p', compile [⟨"(", "0", "inf", ")", "above"⟩, ⟨"(", "-inf", "0", ")", "below"⟩,
        ⟨"[", "-0", "0", "]", "zero"⟩] = .ok p ∧
      compile [⟨"[", "-0", "0", "]", "zero"⟩, ⟨"(", "-inf", "0", ")", "below"⟩,
        ⟨"(", "0", "inf", ")", "above"⟩] = .ok p' ∧
      p'.intervals.toList = p.intervals.toList.map (fun i =>
        { i with rule := Equiv.swap 0 2 i.rule }) ∧
      ∀ v, p'.classify v = p.classify v) ∧
    ∃ k k' defect, compile [⟨"(", "0", "inf", ")", "above"⟩, ⟨"(", "0", "inf", ")", "again"⟩,
        ⟨"(", "-inf", "0", "]", "rest"⟩] = .error (.invalidPartition k defect) ∧
      compile [⟨"(", "0", "inf", ")", "again"⟩, ⟨"(", "-inf", "0", "]", "rest"⟩,
        ⟨"(", "0", "inf", ")", "above"⟩] = .error (.invalidPartition k' defect) ∧ k ≠ k' := by
  constructor
  · have hperm : [(⟨"(", "0", "inf", ")", "above"⟩ : LabelingRule),
        ⟨"(", "-inf", "0", ")", "below"⟩, ⟨"[", "-0", "0", "]", "zero"⟩].Perm
        [⟨"[", "-0", "0", "]", "zero"⟩, ⟨"(", "-inf", "0", ")", "below"⟩,
          ⟨"(", "0", "inf", ")", "above"⟩] := by decide
    have hp : ∃ p, compile [⟨"(", "0", "inf", ")", "above"⟩, ⟨"(", "-inf", "0", ")", "below"⟩,
        ⟨"[", "-0", "0", "]", "zero"⟩] = .ok p := by
      rw [compile_eq_insertion]
      decide +kernel
    obtain ⟨-, hiff, hsame, -⟩ := compile_perm hperm
    obtain ⟨p, hp⟩ := hp
    obtain ⟨p', hp'⟩ := hiff.mp ⟨p, hp⟩
    obtain ⟨hintervals, hclassify⟩ := hsame p p' hp hp'
    refine ⟨p, p', hp, hp', hintervals _ fun k => ?_, hclassify⟩
    rcases k with _ | _ | _ | k
    · rfl
    · rfl
    · rfl
    · rw [Equiv.swap_apply_of_ne_of_ne (by omega) (by omega)]
      rfl
  · have hperm : [(⟨"(", "0", "inf", ")", "above"⟩ : LabelingRule),
        ⟨"(", "0", "inf", ")", "again"⟩, ⟨"(", "-inf", "0", "]", "rest"⟩].Perm
        [⟨"(", "0", "inf", ")", "again"⟩, ⟨"(", "-inf", "0", "]", "rest"⟩,
          ⟨"(", "0", "inf", ")", "above"⟩] := by decide
    have hread : ∀ r ∈ [(⟨"(", "0", "inf", ")", "above"⟩ : LabelingRule),
        ⟨"(", "0", "inf", ")", "again"⟩, ⟨"(", "-inf", "0", "]", "rest"⟩],
        ∃ i, Interval.ofRule 0 r = .ok i := by
      decide +kernel
    have hagain : compile [⟨"(", "0", "inf", ")", "above"⟩, ⟨"(", "0", "inf", ")", "again"⟩,
        ⟨"(", "-inf", "0", "]", "rest"⟩] = .error (.invalidPartition 1 .overlap) := by
      rw [compile_eq_insertion]
      decide +kernel
    have habove : compile [⟨"(", "0", "inf", ")", "again"⟩, ⟨"(", "-inf", "0", "]", "rest"⟩,
        ⟨"(", "0", "inf", ")", "above"⟩] = .error (.invalidPartition 2 .overlap) := by
      rw [compile_eq_insertion]
      decide +kernel
    obtain ⟨k, k', defect, he, he', -⟩ :=
      (compile_perm hperm).2.2.2 hread _ _ hagain habove
    refine ⟨k, k', defect, he ▸ hagain, he' ▸ habove, ?_⟩
    cases he
    cases he'
    decide

end LabelPartition

end CubeAssessment
