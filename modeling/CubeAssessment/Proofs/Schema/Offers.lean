import CubeAssessment.Proofs.Collections.Traversal
import CubeAssessment.Proofs.Schema.Cube
import CubeAssessment.Proofs.Schema.Hierarchy
import CubeAssessment.Schema.Form
import Mathlib.Data.List.Induction

/-! # Cubes grown by offers

A dimension is asked for by its name and the levels of its hierarchies, and offered to a cube, which
takes it or stays as it is. A form gives the dimensions that fit it
(`DimensionForm.make_eq_ok_iff`), so what a cube holds after any row of offers, refused ones among
them, are dimensions that fit the forms accepted, in the order of acceptance and of distinct names,
and every one of them has a finest level to stand for it (`Cube.offerAll_holds_accepted`). -/

namespace CubeAssessment

/-! ## Forms -/

namespace HierarchyForm

/-- The levels asked for; those named in order are counted off from 0. -/
def levels : HierarchyForm → List Level
  | indexed levels => levels
  | linear names => names.mapIdx fun index name => ⟨index, name⟩

/-- **A form makes the hierarchy that has just the levels asked for.** -/
theorem make_eq_ok_iff {form : HierarchyForm} {h : Hierarchy} :
    form.make = .ok h ↔ h.levels.Perm form.levels := by
  cases form with
  | indexed levels => exact Hierarchy.ofLevels_eq_ok_iff
  | linear names => rw [make, Hierarchy.linear_eq_ofLevels, Hierarchy.ofLevels_eq_ok_iff, levels]

end HierarchyForm

namespace DimensionForm

/-- The name asked for. -/
def name : DimensionForm → String
  | linear name _ => name
  | ofHierarchies name _ => name

/-- The hierarchies asked for. -/
def hierarchies : DimensionForm → List HierarchyForm
  | linear _ levelNames => [.linear levelNames]
  | ofHierarchies _ forms => forms

/-- **A dimension fits a form**: it has the name asked for, and hierarchy by hierarchy just the
levels asked for. -/
def Fits (form : DimensionForm) (d : Dimension) : Prop :=
  d.name = form.name ∧
    List.Forall₂ (fun f h => h.levels.Perm f.levels) form.hierarchies d.hierarchies

end DimensionForm

/-- **A form makes the dimensions that fit it.** -/
theorem DimensionForm.make_eq_ok_iff {form : DimensionForm} {d : Dimension} :
    form.make = .ok d ↔ form.Fits d := by
  cases form with
  | linear name levelNames =>
    have hlinear : ∀ h, Hierarchy.linear levelNames = .ok h ↔
        h.levels.Perm (HierarchyForm.linear levelNames).levels := by
      intro h
      rw [← HierarchyForm.make_eq_ok_iff, HierarchyForm.make]
    simp only [make, Dimension.linear, bind_eq_ok_iff, hlinear, Dimension.ofHierarchies_eq_ok_iff]
    constructor
    · rintro ⟨h, hlevels, hname, hhierarchies⟩
      refine ⟨hname, ?_⟩
      rw [hhierarchies]
      exact .cons hlevels .nil
    · rintro ⟨hname, hrel⟩
      obtain ⟨h, rest, hlevels, hrest, hhierarchies⟩ := List.forall₂_cons_left_iff.mp hrel
      rw [List.forall₂_nil_left_iff.mp hrest] at hhierarchies
      exact ⟨h, hlevels, hname, hhierarchies⟩
  | ofHierarchies name forms =>
    simp only [make, bind_eq_ok_iff, mapM_eq_ok_iff, HierarchyForm.make_eq_ok_iff,
      Dimension.ofHierarchies_eq_ok_iff]
    constructor
    · rintro ⟨hs, hrel, hname, rfl⟩
      exact ⟨hname, hrel⟩
    · rintro ⟨hname, hrel⟩
      exact ⟨d.hierarchies, hrel, hname, rfl⟩

namespace Cube

/-! ## Offers -/

/-- The forms that were not refused, in the order in which they were offered. -/
def accepted (forms : List DimensionForm) (answers : List (Option SchemaError)) :
    List DimensionForm :=
  ((forms.zip answers).filter fun pair => pair.2.isNone).map Prod.fst

/-- A form that no dimension fits is refused. -/
theorem offer_of_not_fits {c : Cube} {form : DimensionForm} (h : ∀ d, ¬ form.Fits d) :
    ∃ e, form.make = .error e ∧ c.offer form = (c, some e) := by
  cases hmake : form.make with
  | ok d => exact absurd (DimensionForm.make_eq_ok_iff.mp hmake) (h d)
  | error e =>
    refine ⟨e, rfl, ?_⟩
    rw [offer, addForm, hmake]
    rfl

/-- A form that a dimension fits is offered as that dimension. -/
theorem addForm_of_fits {form : DimensionForm} {d : Dimension} (hd : form.Fits d) (c : Cube) :
    addForm form c = addDimension d c := by
  rw [addForm, DimensionForm.make_eq_ok_iff.mpr hd]
  rfl

/-- **A dimension whose name is taken is refused**, and the cube stays as it was. -/
theorem offer_of_taken {c : Cube} {form : DimensionForm} {d : Dimension} (hd : form.Fits d)
    (htaken : ∃ other ∈ c.dimensions, other.name = d.name) :
    c.offer form = (c, some (.duplicateDimension c.name d.name)) := by
  rw [offer, addForm_of_fits hd, addDimension_eq_error_iff.mpr ⟨htaken, rfl, rfl⟩]

/-- **A dimension whose name is free is put last.** -/
theorem offer_of_free {c : Cube} {form : DimensionForm} {d : Dimension} (hd : form.Fits d)
    (hfree : ∀ other ∈ c.dimensions, other.name ≠ d.name) :
    c.offer form = ({ c with dimensions := c.dimensions ++ [d] }, none) := by
  rw [offer, addForm_of_fits hd, addDimension_eq_ok_iff.mpr ⟨hfree, rfl⟩]

/-- **What an offer can do**: refuse and leave the cube as it was, or put a dimension that fits,
of a free name, last. -/
theorem offer_cases (c : Cube) (form : DimensionForm) :
    (∃ e, c.offer form = (c, some e)) ∨
      ∃ d, form.Fits d ∧ (∀ other ∈ c.dimensions, other.name ≠ d.name) ∧
        c.offer form = ({ c with dimensions := c.dimensions ++ [d] }, none) := by
  by_cases hfits : ∃ d, form.Fits d
  · obtain ⟨d, hd⟩ := hfits
    by_cases hfree : ∀ other ∈ c.dimensions, other.name ≠ d.name
    · exact Or.inr ⟨d, hd, hfree, offer_of_free hd hfree⟩
    · push Not at hfree
      exact Or.inl ⟨_, offer_of_taken hd hfree⟩
  · push Not at hfits
    obtain ⟨e, -, he⟩ := offer_of_not_fits (c := c) hfits
    exact Or.inl ⟨e, he⟩

/-- Offering one more dimension is offering it to the cube that the others have made. -/
theorem offerAll_concat (c : Cube) (forms : List DimensionForm) (form : DimensionForm) :
    c.offerAll (forms ++ [form]) = (((c.offerAll forms).1.offer form).1,
      (c.offerAll forms).2 ++ [((c.offerAll forms).1.offer form).2]) := by
  induction forms generalizing c with
  | nil => rfl
  | cons first rest ih =>
    simp only [List.cons_append, offerAll, ih]

/-- Every offer is answered. -/
theorem length_answers_offerAll (c : Cube) (forms : List DimensionForm) :
    (c.offerAll forms).2.length = forms.length := by
  induction forms generalizing c with
  | nil => rfl
  | cons first rest ih => exact congrArg Nat.succ (ih (c.offer first).1)

/-- A form is accepted last when it is offered last and not refused. -/
theorem accepted_concat {forms : List DimensionForm} {answers : List (Option SchemaError)}
    (h : answers.length = forms.length) (form : DimensionForm) (answer : Option SchemaError) :
    accepted (forms ++ [form]) (answers ++ [answer]) =
      accepted forms answers ++ if answer.isNone then [form] else [] := by
  rw [accepted, List.zip_append h.symm, List.filter_append, List.map_append, ← accepted]
  cases answer <;> rfl

/-- **A cube that dimensions were offered to holds, in order, dimensions that fit the forms
accepted**, and is one that can be built. -/
theorem offerAll_invariant (name : String) (forms : List DimensionForm) :
    ((bare name).offerAll forms).1.Built ∧ ((bare name).offerAll forms).1.name = name ∧
      List.Forall₂ DimensionForm.Fits (accepted forms ((bare name).offerAll forms).2)
        ((bare name).offerAll forms).1.dimensions := by
  induction forms using List.reverseRecOn with
  | nil => exact ⟨.bare name, rfl, .nil⟩
  | append_singleton forms form ih =>
    obtain ⟨hbuilt, hname, hrel⟩ := ih
    have hlength := length_answers_offerAll (bare name) forms
    rw [offerAll_concat, accepted_concat hlength]
    rcases offer_cases ((bare name).offerAll forms).1 form with
      ⟨e, he⟩ | ⟨d, hd, hfree, hoffer⟩
    · simp only [he, Option.isNone_some, Bool.false_eq_true, if_false, List.append_nil]
      exact ⟨hbuilt, hname, hrel⟩
    · simp only [hoffer, Option.isNone_none, if_true]
      refine ⟨.add hbuilt (addDimension_eq_ok_iff.mpr ⟨hfree, rfl⟩), hname, ?_⟩
      exact List.rel_append hrel (.cons hd .nil)

/-- **The invariant of cubes.** After any row of offers a cube holds dimensions that fit the forms
accepted, in the order of acceptance and of distinct names. A dimension is refused when its name is
taken and otherwise put last, and whatever is refused leaves the cube as it was. Every dimension has
hierarchies, every hierarchy levels, and the index of a level is its place. So a look-up finds the
one dimension of a name, and the name of a dimension stands for the level of index 0 of its first
hierarchy, which is always there. -/
theorem offerAll_holds_accepted (name : String) (forms : List DimensionForm) :
    let c := ((bare name).offerAll forms).1
    let answers := ((bare name).offerAll forms).2
    c.name = name ∧
    List.Forall₂ DimensionForm.Fits (accepted forms answers) c.dimensions ∧
    (c.dimensions.map Dimension.name).Nodup ∧
    (∀ form : DimensionForm, (∀ d, ¬ form.Fits d) → ∃ e, form.make = .error e ∧
      (bare name).offerAll (forms ++ [form]) = (c, answers ++ [some e])) ∧
    (∀ (form : DimensionForm) (d : Dimension), form.Fits d →
      ((∃ other ∈ c.dimensions, other.name = d.name) → (bare name).offerAll (forms ++ [form]) =
        (c, answers ++ [some (.duplicateDimension name d.name)])) ∧
      ((∀ other ∈ c.dimensions, other.name ≠ d.name) → (bare name).offerAll (forms ++ [form]) =
        (⟨name, c.dimensions ++ [d]⟩, answers ++ [none]))) ∧
    (∀ d ∈ c.dimensions, d.hierarchies ≠ [] ∧ ∀ h ∈ d.hierarchies, h.levels ≠ [] ∧
      ∀ (i : Nat) (level : Level), h.levels[i]? = some level → level.index = i) ∧
    (∀ (sought : String) (d : Dimension),
      c.dimension? sought = some d ↔ d ∈ c.dimensions ∧ d.name = sought) ∧
    ∀ d ∈ c.dimensions, ∃ primary finest, d.hierarchies[0]? = some primary ∧
      primary.levels[0]? = some finest ∧ finest.index = 0 ∧
      ⟨d.name, finest.index⟩ ∈ c.refsNamed d.name := by
  intro c answers
  obtain ⟨hbuilt, hname, hrel⟩ := offerAll_invariant name forms
  refine ⟨hname, hrel, hbuilt.nodup_names, fun form hform => ?_, fun form d hd =>
    ⟨fun htaken => ?_, fun hfree => ?_⟩, fun d _ => ?_, fun sought d =>
    hbuilt.dimension?_eq_some_iff, fun d hd => ?_⟩
  · obtain ⟨e, he, hoffer⟩ := offer_of_not_fits (c := c) hform
    exact ⟨e, he, by rw [offerAll_concat, hoffer]⟩
  · rw [offerAll_concat, offer_of_taken hd htaken, hname]
  · rw [offerAll_concat, offer_of_free hd hfree, hname]
  · exact ⟨List.cons_ne_nil _ _, fun h _ =>
      ⟨h.levels_ne_nil, fun i level => Hierarchy.index_of_getElem?_levels⟩⟩
  · refine ⟨d.primary, _, rfl, d.primary.getElem?_levels_zero, rfl, mem_refsNamed_iff.mpr ?_⟩
    exact ⟨d, hd, rfl, Or.inl ⟨rfl, rfl⟩⟩

end Cube

end CubeAssessment
