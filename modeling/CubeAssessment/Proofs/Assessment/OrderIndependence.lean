import CubeAssessment.Assessment.Build
import CubeAssessment.Proofs.Catalog
import CubeAssessment.Proofs.Clauses

/-! # Builds and the order of their inputs

The group-by names of an assessment are a set, its selection pairs and the cubes of a catalog are
maps. A build that goes through names and pairs in whatever order reports the same
(`buildReportInOrder_congr`), whether it succeeds or fails, and nothing of the order in which they
were given is left either (`buildReportInOrder_eq_of_reordered`). -/

namespace CubeAssessment

namespace Settings

/-- **Names and pairs in which a build can go through its settings**: all group-by names, each as
often as one likes, and all selection pairs once, both in any order. -/
structure Enumerates (s : Settings) (names : List String) (pairs : List (String × String)) :
    Prop where
  /-- The names are the group-by names. -/
  mem_names : ∀ name, name ∈ names ↔ name ∈ s.groupBy
  /-- The pairs are the selection pairs. -/
  perm_pairs : pairs.Perm s.selection.entries

/-- The clauses of names and pairs depend on the sets of these. -/
theorem clauses_congr {cube : Cube} {names names' : List String}
    {pairs pairs' : List (String × String)} (hnames : ∀ name, name ∈ names ↔ name ∈ names')
    (hpairs : ∀ pair, pair ∈ pairs ↔ pair ∈ pairs') :
    clauses cube names pairs = clauses cube names' pairs' := by
  rw [clauses, GammaClause.build_congr hnames, SigmaClause.build_congr hpairs, ← clauses]

/-- **A report depends on the sets of the names and the pairs gone through.** -/
theorem buildReportInOrder_congr {s : Settings} {catalog : Catalog} {names names' : List String}
    {pairs pairs' : List (String × String)} (hnames : ∀ name, name ∈ names ↔ name ∈ names')
    (hpairs : ∀ pair, pair ∈ pairs ↔ pair ∈ pairs') :
    s.buildReportInOrder catalog names pairs = s.buildReportInOrder catalog names' pairs' := by
  have hclauses : ∀ cube, clauses cube names pairs = clauses cube names' pairs' := fun _ =>
    clauses_congr hnames hpairs
  simp only [buildReportInOrder, hclauses]

/-- The report of a build does not depend on the order in which it goes through its settings. -/
theorem Enumerates.buildReportInOrder_eq {s : Settings} {names : List String}
    {pairs : List (String × String)} (h : s.Enumerates names pairs) (catalog : Catalog) :
    s.buildReportInOrder catalog names pairs = s.buildReport catalog :=
  buildReportInOrder_congr h.mem_names fun _ => h.perm_pairs.mem_iff

/-- **A build does not depend on the order of its unordered inputs.** Its report, that is the query
or the error with all it says and the events before, is the same for group-by names in another
order and repeated otherwise, for selection pairs of distinct names in another order, for cubes of
distinct lower-cased names held in another order, and in whichever order names and pairs are gone
through. -/
theorem buildReportInOrder_eq_of_reordered (s : Settings) (catalog : Catalog)
    {names names' : List String} (hnames : ∀ name, name ∈ names ↔ name ∈ names')
    {pairs pairs' : List (String × String)} (hpairs : pairs.Perm pairs')
    (hpairs_distinct : (pairs.map Prod.fst).Nodup)
    {cubes cubes' : List Cube} (hcubes : cubes.Perm cubes')
    (hcubes_distinct : (cubes.map fun cube => Text.lower cube.name).Nodup)
    {nameOrder nameOrder' : List String} {pairOrder pairOrder' : List (String × String)}
    (horder : ((s.change (.groupBy names)).change (.selection pairs)).Enumerates
      nameOrder pairOrder)
    (horder' : ((s.change (.groupBy names')).change (.selection pairs')).Enumerates
      nameOrder' pairOrder') :
    ((s.change (.groupBy names)).change (.selection pairs)).buildReportInOrder
        (catalog.insertAll cubes) nameOrder pairOrder =
      ((s.change (.groupBy names')).change (.selection pairs')).buildReportInOrder
        (catalog.insertAll cubes') nameOrder' pairOrder' := by
  have hselection : NameMap.ofList pairs = NameMap.ofList pairs' :=
    NameMap.ofList_perm hpairs hpairs_distinct
  rw [horder.buildReportInOrder_eq, horder'.buildReportInOrder_eq,
    Catalog.insertAll_perm hcubes hcubes_distinct]
  -- the first and the last stage read neither the names nor the pairs
  show s.buildReportInOrder _ names (NameMap.ofList pairs).entries =
    s.buildReportInOrder _ names' (NameMap.ofList pairs').entries
  rw [hselection]
  exact buildReportInOrder_congr hnames fun _ => Iff.rfl

/-- Neither `zip` nor `area` is a level of the cube; `area` is reported in both orders. -/
theorem buildReportInOrder_unresolved_names : ∃ report : BuildReport,
    (((⟨some "SALES", NameMap.empty, [], some "sum", some "amount", some (.details ["past", "4"]),
        ["ratio"], []⟩ : Settings).change (.groupBy ["zip", "area"])).change
        (.selection [("city", "Rome"), ("store", "x")])).buildReportInOrder
        (Catalog.empty.insertAll [⟨"Sales", [⟨"store", ⟨"city", []⟩, []⟩]⟩, ⟨"Stock", []⟩])
        ["zip", "area"] [("store", "x"), ("city", "Rome")] = report ∧
      (((⟨some "SALES", NameMap.empty, [], some "sum", some "amount", some (.details ["past", "4"]),
        ["ratio"], []⟩ : Settings).change (.groupBy ["area", "zip", "area"])).change
        (.selection [("store", "x"), ("city", "Rome")])).buildReportInOrder
        (Catalog.empty.insertAll [⟨"Stock", []⟩, ⟨"Sales", [⟨"store", ⟨"city", []⟩, []⟩]⟩])
        ["area", "zip"] [("city", "Rome"), ("store", "x")] = report ∧
      report.outcome = .error (.levelResolutionFailed (.groupBy (.notFound "area"))) :=
  ⟨_, buildReportInOrder_eq_of_reordered _ _ (by simp [or_comm]) (by decide) (by decide)
    (by decide) (by decide) ⟨fun _ => Iff.rfl, by decide⟩ ⟨by simp [change, or_comm], by decide⟩,
    rfl, by
      have hnames : ["area", "zip"].Pairwise fun a b => id a ≤ id b := by decide
      simp only [buildReportInOrder, clauses, GammaClause.build, Cube.collect_of_sorted hnames]
      decide +kernel⟩

end Settings

end CubeAssessment
