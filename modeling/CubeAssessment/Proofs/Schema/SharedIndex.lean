import CubeAssessment.Proofs.Clauses
import CubeAssessment.Proofs.Denotation
import CubeAssessment.Proofs.Schema.Cube
import Mathlib.Data.Finset.Card

/-! # Names that share a level

A reference has a dimension and an index, so levels of one index in several hierarchies of a
dimension have one reference between them. That is the only way in which two names of levels can
come to the same reference (`Built.resolve_eq_iff_alongside`), so a group-by clause has an entry for
each of its names exactly when no two of them stand alongside each other. -/

namespace CubeAssessment

namespace Cube

/-- **Two names stand alongside each other**: in some dimension, two hierarchies have levels of
these names at one index. -/
def Alongside (c : Cube) (name name' : String) : Prop :=
  ∃ d ∈ c.dimensions, ∃ h ∈ d.hierarchies, ∃ h' ∈ d.hierarchies, h ≠ h' ∧
    ∃ index, ⟨index, name⟩ ∈ h.levels ∧ ⟨index, name'⟩ ∈ h'.levels

/-- A name that is no dimension's denotes the levels of that name and nothing else. -/
theorem mem_denoted_iff_of_not_dimension {c : Cube} {name : String} {r : LevelRef}
    (hname : ∀ d ∈ c.dimensions, d.name ≠ name) : r ∈ c.denoted name ↔
      ∃ d ∈ c.dimensions, d.name = r.dimension ∧
        ∃ h ∈ d.hierarchies, ⟨r.index, name⟩ ∈ h.levels := by
  refine exists_congr fun d => and_congr_right fun hd => and_congr_right fun _ => ?_
  exact or_iff_right fun ⟨hown, _⟩ => hname d hd hown

/-- A hierarchy has one name at an index. -/
theorem eq_of_mem_levels {h : Hierarchy} {index : Nat} {name name' : String}
    (hlevel : ⟨index, name⟩ ∈ h.levels) (hlevel' : ⟨index, name'⟩ ∈ h.levels) : name = name' :=
  Option.some.inj ((Hierarchy.mem_levels_iff.mp hlevel).symm.trans
    (Hierarchy.mem_levels_iff.mp hlevel'))

/-- **Names of levels have one reference between them exactly when they stand alongside each
other.** -/
theorem Built.resolve_eq_iff_alongside {c : Cube} (hbuilt : c.Built) {name name' : String}
    (hname : ∀ d ∈ c.dimensions, d.name ≠ name) (hname' : ∀ d ∈ c.dimensions, d.name ≠ name')
    (hne : name ≠ name') {r r' : LevelRef} (hr : c.resolve name = .ok r)
    (hr' : c.resolve name' = .ok r') : r = r' ↔ c.Alongside name name' := by
  constructor
  · rintro rfl
    have hmem : r ∈ c.denoted name := (mem_denoted_iff_of_resolve_eq_ok hr).mpr rfl
    have hmem' : r ∈ c.denoted name' := (mem_denoted_iff_of_resolve_eq_ok hr').mpr rfl
    obtain ⟨d, hd, hdim, h, hh, hlevel⟩ := (mem_denoted_iff_of_not_dimension hname).mp hmem
    obtain ⟨e, he, hdim', h', hh', hlevel'⟩ := (mem_denoted_iff_of_not_dimension hname').mp hmem'
    have hsame : d = e := hbuilt.dimension_unique hd he (hdim.trans hdim'.symm)
    subst hsame
    refine ⟨d, hd, h, hh, h', hh', ?_, r.index, hlevel, hlevel'⟩
    -- in one hierarchy the index has one name
    rintro rfl
    exact hne (eq_of_mem_levels hlevel hlevel')
  · rintro ⟨d, hd, h, hh, h', hh', -, index, hlevel, hlevel'⟩
    have heq : ⟨d.name, index⟩ = r :=
      (mem_denoted_iff_of_resolve_eq_ok hr).mp ⟨d, hd, rfl, Or.inr ⟨h, hh, hlevel⟩⟩
    have heq' : ⟨d.name, index⟩ = r' :=
      (mem_denoted_iff_of_resolve_eq_ok hr').mp ⟨d, hd, rfl, Or.inr ⟨h', hh', hlevel'⟩⟩
    exact heq.symm.trans heq'

end Cube

/-! ## Group-by clauses -/

/-- **A group-by clause of names that resolve has an entry for each of them exactly when no two of
them resolve to one reference.** -/
theorem GammaClause.exists_build_length_iff {c : Cube} {names : List String} {f : String → LevelRef}
    (hf : ∀ name ∈ names, c.resolve name = .ok (f name)) :
    ∃ gamma, build c names = .ok gamma ∧
      (gamma.levels.length = names.toFinset.card ↔ Set.InjOn f { name | name ∈ names }) := by
  obtain ⟨levels, hlevels⟩ :
      ∃ levels, c.collect id (fun _ level => level) names = .ok levels :=
    Cube.exists_collect_eq_ok_iff.mpr fun name hname => ⟨f name, hf name hname⟩
  obtain ⟨-, hascending, hmem⟩ := Cube.collect_eq_ok_iff.mp hlevels
  have hnodup : levels.Nodup := hascending.imp fun hlt => ne_of_irrefl hlt
  have himage : levels.toFinset = names.toFinset.image f := by
    ext r
    rw [List.mem_toFinset, hmem, Finset.mem_image]
    constructor
    · rintro ⟨name, hname, s, hs, rfl⟩
      cases (hf name hname).symm.trans hs
      exact ⟨name, List.mem_toFinset.mpr hname, rfl⟩
    · rintro ⟨name, hname, rfl⟩
      have hin : name ∈ names := List.mem_toFinset.mp hname
      exact ⟨name, hin, f name, hf name hin, rfl⟩
  refine ⟨⟨levels⟩, by rw [build, hlevels], ?_⟩
  rw [← List.toFinset_card_of_nodup hnodup, himage, Finset.card_image_iff, List.coe_toFinset]

/-- **Names of levels come to one reference only where they share an index.** In a cube that can be
built, two different names of levels that resolve have different references unless they stand
alongside each other; so the clause of a list of such names has an entry for each of them exactly
when no two of them stand alongside each other. -/
theorem Cube.Built.refs_distinct_and_clause_complete {c : Cube} (hbuilt : c.Built) :
    (∀ name name' r r', name ≠ name' → (∀ d ∈ c.dimensions, d.name ≠ name ∧ d.name ≠ name') →
      c.resolve name = .ok r → c.resolve name' = .ok r' → (r = r' ↔ c.Alongside name name')) ∧
    ∀ names : List String, (∀ name ∈ names, ∀ d ∈ c.dimensions, d.name ≠ name) →
      (∀ name ∈ names, ∃ r, c.resolve name = .ok r) →
      ∃ gamma, GammaClause.build c names = .ok gamma ∧
        (gamma.levels.length = names.toFinset.card ↔
          ∀ name ∈ names, ∀ name' ∈ names, name ≠ name' → ¬ c.Alongside name name') := by
  refine ⟨fun name name' r r' hne hname hr hr' => ?_, fun names hnames hresolve => ?_⟩
  · exact hbuilt.resolve_eq_iff_alongside (fun d hd => (hname d hd).1) (fun d hd => (hname d hd).2)
      hne hr hr'
  · have : Nonempty LevelRef := ⟨⟨"", 0⟩⟩
    choose! f hf using hresolve
    obtain ⟨gamma, hgamma, hlength⟩ := GammaClause.exists_build_length_iff hf
    refine ⟨gamma, hgamma, hlength.trans ?_⟩
    have halongside : ∀ name ∈ names, ∀ name' ∈ names, name ≠ name' →
        (f name = f name' ↔ c.Alongside name name') := fun name hname name' hname' hne =>
      hbuilt.resolve_eq_iff_alongside (hnames name hname) (hnames name' hname') hne
        (hf name hname) (hf name' hname')
    constructor
    · intro hinj name hname name' hname' hne h
      exact hne (hinj hname hname' ((halongside name hname name' hname' hne).mpr h))
    · intro hapart name hname name' hname' heq
      by_contra hne
      exact hapart name hname name' hname' hne ((halongside name hname name' hname' hne).mp heq)

/-! ## A calendar -/

/-- A cube whose days roll up to months and years and, beside them, to weeks. -/
def Cube.calendar : Cube :=
  ⟨"calendar", [⟨"date", ⟨"day", ["month", "year"]⟩, [⟨"day", ["week"]⟩]⟩]⟩

/-- The calendar is built by adding its dates. -/
theorem Cube.built_calendar : Cube.calendar.Built :=
  .add (.bare "calendar") rfl

/-- Years are apart from months, and grouping by both keeps both. -/
theorem Cube.calendar_month_beside_year : Cube.calendar.Built ∧
    ¬ Cube.calendar.Alongside "month" "year" ∧
    ∃ gamma, GammaClause.build Cube.calendar ["month", "year", "month"] = .ok gamma ∧
      (gamma.levels.length = ["month", "year", "month"].toFinset.card ↔
        ∀ name ∈ ["month", "year", "month"], ∀ name' ∈ ["month", "year", "month"],
          name ≠ name' → ¬ Cube.calendar.Alongside name name') := by
  obtain ⟨hrefs, hclause⟩ := Cube.built_calendar.refs_distinct_and_clause_complete
  have hmonth : Cube.calendar.resolve "month" = .ok ⟨"date", 1⟩ := by decide +kernel
  have hyear : Cube.calendar.resolve "year" = .ok ⟨"date", 2⟩ := by decide +kernel
  refine ⟨Cube.built_calendar, ?_, hclause _ (by decide) ?_⟩
  · intro halongside
    have heq := (hrefs "month" "year" _ _ (by decide) (by decide) hmonth hyear).mpr halongside
    exact absurd heq (by decide)
  · exact List.forall_mem_cons.mpr ⟨⟨_, hmonth⟩, List.forall_mem_cons.mpr ⟨⟨_, hyear⟩,
      List.forall_mem_singleton.mpr ⟨_, hmonth⟩⟩⟩

/-- **Months and weeks have one reference between them**, so grouping by both gives one entry. -/
theorem Cube.calendar_month_alongside_week : Cube.calendar.Built ∧
    (∀ d ∈ Cube.calendar.dimensions, d.name ≠ "month" ∧ d.name ≠ "week") ∧
    Cube.calendar.resolve "month" = .ok ⟨"date", 1⟩ ∧
    Cube.calendar.resolve "week" = .ok ⟨"date", 1⟩ ∧
    GammaClause.build Cube.calendar ["month", "week"] = .ok ⟨[⟨"date", 1⟩]⟩ ∧
    ["month", "week"].toFinset.card = 2 := by
  have hmonth : Cube.calendar.resolve "month" = .ok ⟨"date", 1⟩ := by decide +kernel
  have hweek : Cube.calendar.resolve "week" = .ok ⟨"date", 1⟩ := by decide +kernel
  refine ⟨Cube.built_calendar, by decide, hmonth, hweek, ?_, by decide⟩
  rw [GammaClause.build, Cube.collect_of_sorted (by decide)]
  decide +kernel

end CubeAssessment
