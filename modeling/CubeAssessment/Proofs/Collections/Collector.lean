import CubeAssessment.Proofs.Collections.Traversal
import Mathlib.Data.List.Nodup

/-! # Collecting what definitions make

A collector goes through a row of definitions, makes a member of each and puts it last, unless the
definition is not valid or a member of its key is there already. The row is collected exactly when
every definition makes a member and no two have one key (`Collector.exists_collect_eq_ok_iff`), and
what is collected then are the members made, in order (`Collector.collect_eq_ok_iff`). Otherwise the
first definition that is not valid or repeats a key is to blame
(`Collector.collect_eq_error_iff`). -/

namespace CubeAssessment

/-- **A collector** of members `β` that definitions `δ` make, in a state `σ`. -/
structure Collector (ε ε' σ δ β : Type) where
  /-- Take a definition. -/
  step : σ → δ → Except ε σ
  /-- The state in which some members are collected. -/
  build : List β → σ
  /-- Make the member of a definition. -/
  make : δ → Except ε' β
  /-- The key of a member. -/
  key : β → String
  /-- The key of the member that a definition makes. -/
  keyOf : δ → String
  /-- What is reported of a definition that makes no member. -/
  invalid : δ → ε' → ε
  /-- What is reported of a definition whose key is taken. -/
  taken : δ → ε
  /-- The member made has the key of the definition. -/
  key_eq : ∀ d b, make d = .ok b → key b = keyOf d
  /-- A definition is taken by making its member, unless the key of the member is taken. -/
  step_eq : ∀ bs d, step (build bs) d =
    match make d with
    | .error cause => .error (invalid d cause)
    | .ok b => if key b ∈ bs.map key then .error (taken d) else .ok (build (bs ++ [b]))

namespace Collector

variable {ε ε' σ δ β : Type} (C : Collector ε ε' σ δ β)

/-- Take definitions one after the other, from the state without members. -/
def collect (ds : List δ) : Except ε σ := ds.foldlM C.step (C.build [])

/-- **A row of definitions is sound**: each makes a member, and no two have one key. -/
def Sound (ds : List δ) : Prop := (∀ d ∈ ds, ∃ b, C.make d = .ok b) ∧ (ds.map C.keyOf).Nodup

variable {C} {bs held : List β} {ds : List δ} {d : δ} {s : σ} {e : ε}

/-- **A definition is taken when it makes a member of a free key**, which is put last. -/
theorem step_eq_ok_iff : C.step (C.build bs) d = .ok s ↔
    ∃ b, C.make d = .ok b ∧ C.key b ∉ bs.map C.key ∧ s = C.build (bs ++ [b]) := by
  rw [step_eq]
  cases hmake : C.make d with
  | error cause => exact iff_of_false nofun nofun
  | ok b =>
    simp only [Except.ok.injEq, exists_eq_left']
    split
    · next htaken => exact iff_of_false nofun fun h => h.1 htaken
    · next hfree => rw [Except.ok.injEq, and_iff_right hfree, eq_comm]

/-- **A definition is refused when it makes no member, or one whose key is taken.** -/
theorem step_eq_error_iff : C.step (C.build bs) d = .error e ↔
    (∃ cause, C.make d = .error cause ∧ e = C.invalid d cause) ∨
      (∃ b, C.make d = .ok b) ∧ C.keyOf d ∈ bs.map C.key ∧ e = C.taken d := by
  rw [step_eq]
  cases hmake : C.make d with
  | error cause =>
    simp only [Except.error.injEq, exists_eq_left', reduceCtorEq, exists_false, false_and,
      or_false, eq_comm]
  | ok b =>
    rw [or_iff_right nofun, and_iff_right ⟨b, rfl⟩, ← C.key_eq d b hmake]
    dsimp only
    split
    · next htaken => rw [Except.error.injEq, and_iff_right htaken, eq_comm]
    · next hfree => exact iff_of_false nofun fun h => hfree h.1

/-- The members made have the keys of the definitions. -/
theorem map_key_eq (hmade : List.Forall₂ (fun d b => C.make d = .ok b) ds bs) :
    bs.map C.key = ds.map C.keyOf := by
  induction hmade with
  | nil => rfl
  | cons hmake _ ih => rw [List.map_cons, List.map_cons, ih, C.key_eq _ _ hmake]

/-- One more member leaves the keys distinct when its key is free. -/
theorem nodup_map_key_concat {b : β} : ((held ++ [b]).map C.key).Nodup ↔
    C.key b ∉ held.map C.key ∧ (held.map C.key).Nodup := by
  rw [List.map_append, List.map_singleton, ← List.concat_eq_append, List.nodup_concat]

/-- Definitions are taken on top of some members when they make members of keys that are distinct
and free. -/
theorem foldlM_step_eq_ok_iff (hheld : (held.map C.key).Nodup) :
    ds.foldlM C.step (C.build held) = .ok s ↔
      ∃ bs, List.Forall₂ (fun d b => C.make d = .ok b) ds bs ∧
        ((held ++ bs).map C.key).Nodup ∧ s = C.build (held ++ bs) := by
  induction ds generalizing held with
  | nil =>
    simp only [List.foldlM_nil, List.forall₂_nil_left_iff, exists_eq_left, List.append_nil]
    rw [and_iff_right hheld]
    change Except.ok (C.build held) = Except.ok s ↔ s = C.build held
    rw [Except.ok.injEq, eq_comm]
  | cons d ds ih =>
    simp only [List.foldlM_cons, bind_eq_ok_iff, step_eq_ok_iff, List.forall₂_cons_left_iff]
    constructor
    · rintro ⟨next, ⟨b, hmake, hfree, rfl⟩, hrest⟩
      obtain ⟨bs, hmade, hnodup, rfl⟩ := (ih (nodup_map_key_concat.mpr ⟨hfree, hheld⟩)).mp hrest
      rw [List.append_assoc, List.singleton_append] at hnodup ⊢
      exact ⟨b :: bs, ⟨b, bs, hmake, hmade, rfl⟩, hnodup, rfl⟩
    · rintro ⟨_, ⟨b, bs, hmake, hmade, rfl⟩, hnodup, rfl⟩
      have happend : held ++ b :: bs = held ++ [b] ++ bs := List.append_cons held b bs
      rw [happend] at hnodup
      -- the front of a row of distinct keys has distinct keys
      have hnext : ((held ++ [b]).map C.key).Nodup := by
        rw [List.map_append] at hnodup
        exact (List.nodup_append.mp hnodup).1
      have hfree : C.key b ∉ held.map C.key := (nodup_map_key_concat.mp hnext).1
      exact ⟨_, ⟨b, hmake, hfree, rfl⟩,
        (ih hnext).mpr ⟨bs, hmade, hnodup, congrArg C.build happend⟩⟩

/-- **Definitions of distinct keys that all make members are collected**, as these members in
order. -/
theorem collect_eq_ok_iff : C.collect ds = .ok s ↔ (ds.map C.keyOf).Nodup ∧
    ∃ bs, List.Forall₂ (fun d b => C.make d = .ok b) ds bs ∧ s = C.build bs := by
  rw [collect, foldlM_step_eq_ok_iff (by simp)]
  constructor
  · rintro ⟨bs, hmade, hnodup, rfl⟩
    rw [List.nil_append, map_key_eq hmade] at hnodup
    exact ⟨hnodup, bs, hmade, rfl⟩
  · rintro ⟨hnodup, bs, hmade, rfl⟩
    refine ⟨bs, hmade, ?_, rfl⟩
    rwa [List.nil_append, map_key_eq hmade]

/-- **Exactly the sound rows of definitions are collected.** -/
theorem exists_collect_eq_ok_iff : (∃ s, C.collect ds = .ok s) ↔ C.Sound ds := by
  simp only [collect_eq_ok_iff, Sound, ← exists_mapM_eq_ok_iff, mapM_eq_ok_iff]
  constructor
  · rintro ⟨s, hnodup, bs, hmade, -⟩
    exact ⟨⟨bs, hmade⟩, hnodup⟩
  · rintro ⟨⟨bs, hmade⟩, hnodup⟩
    exact ⟨_, hnodup, bs, hmade, rfl⟩

/-- **The first definition that makes no member or repeats a key is to blame**, for making no member
if it does both. -/
theorem collect_eq_error_iff : C.collect ds = .error e ↔
    ∃ front d back, ds = front ++ d :: back ∧ C.Sound front ∧
      ((∃ cause, C.make d = .error cause ∧ e = C.invalid d cause) ∨
        (∃ b, C.make d = .ok b) ∧ C.keyOf d ∈ front.map C.keyOf ∧ e = C.taken d) := by
  rw [collect, foldlM_eq_error_iff]
  constructor
  · rintro ⟨front, d, back, mid, hds, hfront, hstep⟩
    have hsound : C.Sound front := exists_collect_eq_ok_iff.mp ⟨mid, hfront⟩
    obtain ⟨-, bs, hmade, rfl⟩ := collect_eq_ok_iff.mp hfront
    rw [step_eq_error_iff, map_key_eq hmade] at hstep
    exact ⟨front, d, back, hds, hsound, hstep⟩
  · rintro ⟨front, d, back, hds, hsound, hfault⟩
    obtain ⟨mid, hfront⟩ := exists_collect_eq_ok_iff.mpr hsound
    obtain ⟨-, bs, hmade, rfl⟩ := collect_eq_ok_iff.mp hfront
    refine ⟨front, d, back, _, hds, hfront, ?_⟩
    rwa [step_eq_error_iff, map_key_eq hmade]

end Collector

end CubeAssessment
