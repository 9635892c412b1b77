import Mathlib.Data.List.Forall2

/-! # Lists member by member

What holds of two lists member by member holds of each member of one and some member of the other.
A chain of computations that may fail succeeds exactly when each of its parts does, and computing
for each member of a list, or going through it with a state, fails as the first member does that
fails (`mapM_eq_error_iff`, `foldlM_eq_error_iff`). -/

namespace CubeAssessment

variable {ε ε' α β : Type}

/-- A member of the left list is related to some member of the right one. -/
theorem exists_rel_of_mem_left {R : α → β → Prop} {xs : List α} {ys : List β}
    (h : List.Forall₂ R xs ys) {x : α} (hx : x ∈ xs) : ∃ y ∈ ys, R x y := by
  induction h with
  | nil => cases hx
  | cons hxy _ ih =>
      rcases List.mem_cons.mp hx with rfl | hx
      · exact ⟨_, List.mem_cons_self, hxy⟩
      · obtain ⟨y, hy, hxy⟩ := ih hx
        exact ⟨y, List.mem_cons_of_mem _ hy, hxy⟩

/-- A member of the right list is related to some member of the left one. -/
theorem exists_rel_of_mem_right {R : α → β → Prop} {xs : List α} {ys : List β}
    (h : List.Forall₂ R xs ys) {y : β} (hy : y ∈ ys) : ∃ x ∈ xs, R x y :=
  exists_rel_of_mem_left (List.Forall₂.flip h) hy

/-! ## Computations that may fail -/

/-- A computation followed by a function succeeds when it does. -/
theorem map_eq_ok_iff {x : Except ε α} {f : α → β} {b : β} :
    x.map f = .ok b ↔ ∃ a, x = .ok a ∧ f a = b := by
  cases x with
  | error e => exact iff_of_false nofun fun ⟨_, h, _⟩ => by cases h
  | ok a =>
      rw [Except.map, Except.ok.injEq]
      refine ⟨fun h => ⟨a, rfl, h⟩, ?_⟩
      rintro ⟨_, ha, h⟩
      cases ha
      exact h

/-- A computation followed by a function fails as it does. -/
theorem map_eq_error_iff {x : Except ε α} {f : α → β} {e : ε} :
    x.map f = .error e ↔ x = .error e := by
  cases x with
  | error e' => rw [Except.map, Except.error.injEq, Except.error.injEq]
  | ok a => exact iff_of_false nofun nofun

/-- A computation whose fault is reported otherwise succeeds as it does. -/
theorem mapError_eq_ok_iff {x : Except ε α} {f : ε → ε'} {a : α} :
    x.mapError f = .ok a ↔ x = .ok a := by
  cases x with
  | error e => exact iff_of_false nofun nofun
  | ok b => rw [Except.mapError, Except.ok.injEq, Except.ok.injEq]

/-- A computation whose fault is reported otherwise fails with the reports of its faults. -/
theorem mapError_eq_error_iff {x : Except ε α} {f : ε → ε'} {e' : ε'} :
    x.mapError f = .error e' ↔ ∃ e, x = .error e ∧ e' = f e := by
  cases x with
  | ok a => exact iff_of_false nofun fun ⟨_, h, _⟩ => by cases h
  | error e =>
      rw [Except.mapError, Except.error.injEq]
      refine ⟨fun h => ⟨e, rfl, h.symm⟩, ?_⟩
      rintro ⟨_, he, h⟩
      cases he
      exact h.symm

/-- **A chain succeeds exactly when its first part does and the rest with its value.** -/
theorem bind_eq_ok_iff {x : Except ε α} {f : α → Except ε β} {b : β} :
    (x >>= f) = .ok b ↔ ∃ a, x = .ok a ∧ f a = .ok b := by
  cases x with
  | error e => exact iff_of_false (fun h => by cases h) (fun ⟨_, h, _⟩ => by cases h)
  | ok a =>
      refine ⟨fun h => ⟨a, rfl, h⟩, ?_⟩
      rintro ⟨_, ha, h⟩
      cases ha
      exact h

/-- **A chain fails exactly when its first part does, or the rest with its value.** -/
theorem bind_eq_error_iff {x : Except ε α} {f : α → Except ε β} {e : ε} :
    (x >>= f) = .error e ↔ x = .error e ∨ ∃ a, x = .ok a ∧ f a = .error e := by
  cases x with
  | error e' =>
      rw [or_iff_left (fun ⟨_, h, _⟩ => by cases h), Except.error.injEq]
      change Except.error e' = Except.error e ↔ e' = e
      rw [Except.error.injEq]
  | ok a =>
      rw [or_iff_right (fun h => by cases h)]
      refine ⟨fun h => ⟨a, rfl, h⟩, ?_⟩
      rintro ⟨_, ha, h⟩
      cases ha
      exact h

/-- Whether a computation gives a value can be seen by running it. -/
instance decidableExistsOk (x : Except ε α) : Decidable (∃ a, x = .ok a) :=
  match x with
  | .ok a => .isTrue ⟨a, rfl⟩
  | .error _ => .isFalse nofun

/-- A computation gives a value exactly when it does not fail. -/
theorem exists_eq_ok_iff {x : Except ε α} : (∃ a, x = .ok a) ↔ ∀ e, x ≠ .error e := by
  cases x with
  | error e => exact iff_of_false nofun fun h => h e rfl
  | ok a => exact iff_of_true ⟨a, rfl⟩ nofun

/-- **Computing for each member succeeds member by member.** -/
theorem mapM_eq_ok_iff {f : α → Except ε β} {xs : List α} {ys : List β} :
    xs.mapM f = .ok ys ↔ List.Forall₂ (fun x y => f x = .ok y) xs ys := by
  induction xs generalizing ys with
  | nil =>
      rw [List.mapM_nil, List.forall₂_nil_left_iff]
      change Except.ok [] = Except.ok ys ↔ ys = []
      rw [Except.ok.injEq, eq_comm]
  | cons x xs ih =>
      simp only [List.mapM_cons, bind_eq_ok_iff, ih, List.forall₂_cons_left_iff]
      constructor
      · rintro ⟨y, hy, rest, hrest, h⟩
        cases h
        exact ⟨y, rest, hy, hrest, rfl⟩
      · rintro ⟨y, rest, hy, hrest, rfl⟩
        exact ⟨y, hy, rest, hrest, rfl⟩

/-- **Computing entries that name the members they are for** gives one for each member, in order. -/
theorem mapM_eq_ok_iff_map {f : α → Except ε β} {key : β → α} {good : β → Prop}
    (hf : ∀ x y, f x = .ok y ↔ key y = x ∧ good y) {xs : List α} {ys : List β} :
    xs.mapM f = .ok ys ↔ ys.map key = xs ∧ ∀ y ∈ ys, good y := by
  simp only [mapM_eq_ok_iff, hf]
  induction ys generalizing xs with
  | nil => simp [List.forall₂_nil_right_iff, eq_comm]
  | cons y ys ih =>
      rw [List.forall₂_cons_right_iff, List.forall_mem_cons]
      constructor
      · rintro ⟨x, xs, ⟨rfl, hy⟩, hrest, rfl⟩
        obtain ⟨rfl, hys⟩ := ih.mp hrest
        exact ⟨rfl, hy, hys⟩
      · rintro ⟨rfl, hy, hys⟩
        exact ⟨key y, ys.map key, ⟨rfl, hy⟩, ih.mpr ⟨rfl, hys⟩, rfl⟩

/-- Computations that agree on the members of a list agree on the list. -/
theorem mapM_congr {f g : α → Except ε β} {xs : List α} (h : ∀ x ∈ xs, f x = g x) :
    xs.mapM f = xs.mapM g := by
  induction xs with
  | nil => rfl
  | cons x xs ih =>
      obtain ⟨hx, hxs⟩ := List.forall_mem_cons.mp h
      rw [List.mapM_cons, List.mapM_cons, hx, ih hxs]

/-- **Computing for each member fails as the first member that fails.** -/
theorem mapM_eq_error_iff {f : α → Except ε β} {xs : List α} {e : ε} :
    xs.mapM f = .error e ↔ ∃ front x back, xs = front ++ x :: back ∧
      (∀ a ∈ front, ∃ b, f a = .ok b) ∧ f x = .error e := by
  induction xs with
  | nil => exact iff_of_false nofun (by simp)
  | cons a xs ih =>
      rw [List.mapM_cons]
      constructor
      · intro h
        cases ha : f a with
        | error e' =>
            rw [ha] at h
            cases h
            exact ⟨[], a, xs, rfl, nofun, ha⟩
        | ok b =>
            cases hrest : xs.mapM f with
            | ok rest => rw [ha, hrest] at h; cases h
            | error e' =>
                rw [ha, hrest] at h
                cases h
                obtain ⟨front, x, back, rfl, hfront, hx⟩ := ih.mp hrest
                exact ⟨a :: front, x, back, rfl, List.forall_mem_cons.mpr ⟨⟨b, ha⟩, hfront⟩, hx⟩
      · rintro ⟨front, x, back, hxs, hfront, hx⟩
        cases front with
        | nil =>
            cases hxs
            rw [hx]
            rfl
        | cons a' front =>
            cases hxs
            obtain ⟨⟨b, hb⟩, hfront⟩ := List.forall_mem_cons.mp hfront
            rw [hb, ih.mpr ⟨front, x, back, rfl, hfront, hx⟩]
            rfl

/-- Computing for each member succeeds exactly when it does for all of them. -/
theorem exists_mapM_eq_ok_iff {f : α → Except ε β} {xs : List α} :
    (∃ ys, xs.mapM f = .ok ys) ↔ ∀ x ∈ xs, ∃ y, f x = .ok y := by
  constructor
  · rintro ⟨ys, hys⟩ x hx
    obtain ⟨y, -, hy⟩ := exists_rel_of_mem_left (mapM_eq_ok_iff.mp hys) hx
    exact ⟨y, hy⟩
  · intro h
    cases hxs : xs.mapM f with
    | ok ys => exact ⟨ys, rfl⟩
    | error e =>
        obtain ⟨front, x, back, rfl, -, hx⟩ := mapM_eq_error_iff.mp hxs
        obtain ⟨y, hy⟩ := h x (List.mem_append_right _ List.mem_cons_self)
        rw [hy] at hx
        cases hx

/-- **Going through a list fails at the first member that fails**, in the state that the members
before it lead to. -/
theorem foldlM_eq_error_iff {f : α → β → Except ε α} {xs : List β} {a : α} {e : ε} :
    xs.foldlM f a = .error e ↔ ∃ front x back mid, xs = front ++ x :: back ∧
      front.foldlM f a = .ok mid ∧ f mid x = .error e := by
  induction xs generalizing a with
  | nil => exact iff_of_false nofun (by simp)
  | cons x xs ih =>
      rw [List.foldlM_cons, bind_eq_error_iff]
      simp only [ih]
      constructor
      · rintro (hx | ⟨next, hnext, front, y, back, mid, rfl, hfront, hy⟩)
        · exact ⟨[], x, xs, a, rfl, rfl, hx⟩
        · refine ⟨x :: front, y, back, mid, rfl, ?_, hy⟩
          rw [List.foldlM_cons, bind_eq_ok_iff]
          exact ⟨next, hnext, hfront⟩
      · rintro ⟨front, y, back, mid, hxs, hfront, hy⟩
        cases front with
        | nil =>
            cases hxs
            cases hfront
            exact Or.inl hy
        | cons x' front =>
            cases hxs
            rw [List.foldlM_cons, bind_eq_ok_iff] at hfront
            obtain ⟨next, hnext, hfront⟩ := hfront
            exact Or.inr ⟨next, hnext, front, y, back, mid, rfl, hfront, hy⟩

/-- What is computed for the members of a list is a member of the outcome. -/
theorem mem_of_mapM_eq_ok_iff {f : α → Except ε β} {xs : List α} {ys : List β}
    (h : xs.mapM f = .ok ys) {y : β} : y ∈ ys ↔ ∃ x ∈ xs, f x = .ok y := by
  have hrel := mapM_eq_ok_iff.mp h
  constructor
  · exact exists_rel_of_mem_right hrel
  · rintro ⟨x, hx, hxy⟩
    obtain ⟨y', hy', hxy'⟩ := exists_rel_of_mem_left hrel hx
    cases hxy.symm.trans hxy'
    exact hy'

end CubeAssessment
