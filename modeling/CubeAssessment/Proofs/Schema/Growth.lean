import CubeAssessment.Proofs.Clauses
import CubeAssessment.Proofs.Denotation

/-! # Growing schemas

A cube grows when dimensions are added to it and hierarchies to its dimensions. A name then denotes
at least what it did (`Grows.denoted_subset`), and no more unless something added bears it
(`denoted_subset_of_not_adds`). So a name that resolved still resolves to the same level or becomes
ambiguous (`Grows.resolve_of_eq_ok`), and what is collected for names stays or fails as one that has
become ambiguous (`Grows.collect_of_eq_ok`). -/

namespace CubeAssessment

namespace Cube

/-- **`c'` is grown from `c`**: it has the same name and every dimension of `c`, under its name and
with at least its hierarchies. -/
structure Grows (c c' : Cube) : Prop where
  /-- The names are equal. -/
  name_eq : c'.name = c.name
  /-- Every dimension is still there, with its hierarchies. -/
  exists_dimension : ∀ d ∈ c.dimensions,
    ∃ d' ∈ c'.dimensions, d'.name = d.name ∧ ∀ h ∈ d.hierarchies, h ∈ d'.hierarchies

/-- **Something that `c'` has and `c` does not bears a name**: a dimension of a new name, one of its
levels, or a level of a new hierarchy of a dimension. -/
def Adds (c c' : Cube) (name : String) : Prop :=
  ∃ d' ∈ c'.dimensions,
    ((∀ d ∈ c.dimensions, d.name ≠ d'.name) ∧
      (d'.name = name ∨ ∃ h ∈ d'.hierarchies, name ∈ h.names)) ∨
    ∃ h ∈ d'.hierarchies, (∀ d ∈ c.dimensions, d.name = d'.name → h ∉ d.hierarchies) ∧
      name ∈ h.names

instance (c c' : Cube) (name : String) : Decidable (c.Adds c' name) :=
  inferInstanceAs (Decidable (∃ d' ∈ c'.dimensions,
    ((∀ d ∈ c.dimensions, d.name ≠ d'.name) ∧
      (d'.name = name ∨ ∃ h ∈ d'.hierarchies, name ∈ h.names)) ∨
    ∃ h ∈ d'.hierarchies, (∀ d ∈ c.dimensions, d.name = d'.name → h ∉ d.hierarchies) ∧
      name ∈ h.names))

/-! ## What a name denotes -/

/-- **In a grown cube a name denotes at least what it did.** -/
theorem Grows.denoted_subset {c c' : Cube} (h : c.Grows c') (name : String) :
    c.denoted name ⊆ c'.denoted name := by
  rintro r ⟨d, hd, hname, hlevel⟩
  obtain ⟨d', hd', hname', hhierarchies⟩ := h.exists_dimension d hd
  refine ⟨d', hd', hname'.trans hname, ?_⟩
  rw [hname']
  exact hlevel.imp_right fun ⟨drill, hdrill, hlevel⟩ => ⟨drill, hhierarchies drill hdrill, hlevel⟩

/-- A level of a hierarchy has one of its names. -/
theorem mem_names_of_mem_levels {h : Hierarchy} {index : Nat} {name : String}
    (hlevel : ⟨index, name⟩ ∈ h.levels) : name ∈ h.names :=
  List.mem_of_getElem? (Hierarchy.mem_levels_iff.mp hlevel)

/-- **A name that nothing added bears denotes no more than it did.** -/
theorem denoted_subset_of_not_adds {c c' : Cube} {name : String} (h : ¬ c.Adds c' name) :
    c'.denoted name ⊆ c.denoted name := by
  rintro r ⟨d', hd', hname', hlevel⟩
  have hold : ∀ h' ∈ d'.hierarchies, name ∈ h'.names →
      ∃ d ∈ c.dimensions, d.name = d'.name ∧ h' ∈ d.hierarchies := by
    intro h' hh' hmem
    by_contra hnew
    push Not at hnew
    exact h ⟨d', hd', Or.inr ⟨h', hh', hnew, hmem⟩⟩
  rcases hlevel with ⟨hown, hzero⟩ | ⟨h', hh', hlevel⟩
  · -- the dimension bears the name, so it is not new
    have hdimension : ∃ d ∈ c.dimensions, d.name = d'.name := by
      by_contra hnew
      push Not at hnew
      exact h ⟨d', hd', Or.inl ⟨hnew, Or.inl hown⟩⟩
    obtain ⟨d, hd, hname⟩ := hdimension
    exact ⟨d, hd, hname.trans hname', Or.inl ⟨hname.trans hown, hzero⟩⟩
  · obtain ⟨d, hd, hname, hh⟩ := hold h' hh' (mem_names_of_mem_levels hlevel)
    exact ⟨d, hd, hname.trans hname', Or.inr ⟨h', hh, hlevel⟩⟩

/-! ## Resolution -/

/-- A name that denotes a level resolves to it or is ambiguous with it among the candidates. -/
theorem resolve_of_mem_denoted {c : Cube} {name : String} {r : LevelRef}
    (h : r ∈ c.denoted name) : c.resolve name = .ok r ∨
      ∃ candidates, c.resolve name = .error (.ambiguous name candidates) ∧ r ∈ candidates := by
  have hmem : r ∈ c.refsNamed name := mem_refsNamed_iff.mpr h
  by_cases hseveral : 2 ≤ (c.refsNamed name).length
  · exact Or.inr ⟨c.refsNamed name, resolve_eq_ambiguous_iff.mpr ⟨rfl, rfl, hseveral⟩, hmem⟩
  · have hone : (c.refsNamed name).length = 1 := by
      have hpos := List.length_pos_of_mem hmem
      omega
    obtain ⟨s, hs⟩ := List.length_eq_one_iff.mp hone
    rw [hs, List.mem_singleton] at hmem
    exact Or.inl (resolve_eq_ok_iff.mpr (by rw [hs, hmem]))

/-- **A name that resolved in a cube resolves alike in a grown one or becomes ambiguous.** -/
theorem Grows.resolve_of_eq_ok {c c' : Cube} (h : c.Grows c') {name : String} {r : LevelRef}
    (hr : c.resolve name = .ok r) : c'.resolve name = .ok r ∨
      ∃ candidates, c'.resolve name = .error (.ambiguous name candidates) ∧ r ∈ candidates :=
  resolve_of_mem_denoted
    (h.denoted_subset name ((mem_denoted_iff_of_resolve_eq_ok hr).mpr rfl))

/-- **A name that was ambiguous in a cube stays so in a grown one**, with all its candidates. -/
theorem Grows.resolve_of_eq_ambiguous {c c' : Cube} (h : c.Grows c') {name : String}
    {candidates : List LevelRef} (hr : c.resolve name = .error (.ambiguous name candidates)) :
    ∃ candidates', c'.resolve name = .error (.ambiguous name candidates') ∧
      ∀ r ∈ candidates, r ∈ candidates' := by
  obtain ⟨-, rfl, hseveral⟩ := resolve_eq_ambiguous_iff.mp hr
  have hnontrivial : (c'.denoted name).Nontrivial :=
    (two_le_length_refsNamed_iff.mp hseveral).mono (h.denoted_subset name)
  refine ⟨c'.refsNamed name, resolve_eq_ambiguous_iff.mpr
    ⟨rfl, rfl, two_le_length_refsNamed_iff.mpr hnontrivial⟩, fun r hr => ?_⟩
  exact mem_refsNamed_iff.mpr (h.denoted_subset name (mem_refsNamed_iff.mp hr))

/-- **A name that nothing added bears resolves as it did.** -/
theorem Grows.resolve_eq_of_not_adds {c c' : Cube} (h : c.Grows c') {name : String}
    (hname : ¬ c.Adds c' name) : c'.resolve name = c.resolve name :=
  resolve_congr ((denoted_subset_of_not_adds hname).antisymm (h.denoted_subset name))

/-! ## Collected names -/

section Collect

variable {α β : Type} [LT β] [DecidableLT β] {name : α → String} {make : α → LevelRef → β}
  {items : List α} {c c' : Cube}

/-- Cubes in which the names resolve alike collect the same. -/
theorem collect_congr_cube (h : ∀ item ∈ items, c'.resolve (name item) = c.resolve (name item)) :
    c'.collect name make items = c.collect name make items := by
  have hmapM : ∀ item ∈ items.mergeSort fun a b => decide (name a ≤ name b),
      (c'.resolve (name item)).map (make item) = (c.resolve (name item)).map (make item) := by
    intro item hitem
    rw [h item (List.mem_mergeSort.mp hitem)]
  rw [collect, collect, mapM_congr hmapM]

/-- **What was collected in a cube is collected in a grown one, or a name has become ambiguous.** -/
theorem Grows.collect_of_eq_ok (h : c.Grows c') {collected : List β}
    (hok : c.collect name make items = .ok collected) :
    c'.collect name make items = .ok collected ∨ ∃ item ∈ items, ∃ candidates,
      c'.collect name make items = .error (.ambiguous (name item) candidates) := by
  have hresolve := exists_collect_eq_ok_iff.mp ⟨collected, hok⟩
  cases hgrown : c'.collect name make items with
  | error e =>
      -- the name blamed resolved before, so it has become ambiguous
      obtain ⟨item, hitem, he, -⟩ := collect_eq_error_iff.mp hgrown
      obtain ⟨r, hr⟩ := hresolve item hitem
      rcases h.resolve_of_eq_ok hr with hsame | ⟨candidates, hambiguous, -⟩
      · cases he.symm.trans hsame
      · cases he.symm.trans hambiguous
        exact Or.inr ⟨item, hitem, candidates, rfl⟩
  | ok collected' =>
      refine Or.inl (hgrown.symm.trans ((collect_congr_cube fun item hitem => ?_).trans hok))
      obtain ⟨r, hr⟩ := hresolve item hitem
      obtain ⟨r', hr'⟩ := exists_collect_eq_ok_iff.mp ⟨collected', hgrown⟩ item hitem
      rcases h.resolve_of_eq_ok hr with hsame | ⟨candidates, hambiguous, -⟩
      · rw [hsame, hr]
      · cases hr'.symm.trans hambiguous

end Collect

end Cube

end CubeAssessment
