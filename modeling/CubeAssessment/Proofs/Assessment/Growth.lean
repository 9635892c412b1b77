import CubeAssessment.Proofs.Assessment.Blame
import CubeAssessment.Proofs.Schema.Growth

/-! # Builds over a grown schema

When a catalog holds a grown cube in place of the cube it is grown from, a build that succeeded
gives the same query or fails because a name it uses has become ambiguous; it never groups or
selects by other levels. When nothing added bears a name it uses, nothing changes
(`Cube.Grows.resolve_and_build`). -/

namespace CubeAssessment

/-! ## Clauses -/

variable {c c' : Cube}

/-- **A group-by clause stays in a grown cube, or a name has become ambiguous.** -/
theorem GammaClause.build_grown (h : c.Grows c') {names : List String} {gamma : GammaClause}
    (hok : build c names = .ok gamma) : build c' names = .ok gamma ∨
      ∃ name ∈ names, ∃ candidates,
        build c' names = .error (.groupBy (.ambiguous name candidates)) := by
  rw [build] at hok
  split at hok
  · cases hok
  · next levels hlevels =>
    rcases h.collect_of_eq_ok hlevels with hsame | ⟨name, hname, candidates, hfails⟩
    · exact Or.inl (by rw [build, hsame, ← hok])
    · exact Or.inr ⟨name, hname, candidates, by rw [build, hfails]; rfl⟩

/-- **A selection clause stays in a grown cube, or a name has become ambiguous.** -/
theorem SigmaClause.build_grown (h : c.Grows c') {pairs : List (String × String)}
    {sigma : SigmaClause} (hok : build c pairs = .ok sigma) : build c' pairs = .ok sigma ∨
      ∃ pair ∈ pairs, ∃ candidates,
        build c' pairs = .error (.selection (.ambiguous pair.1 candidates)) := by
  rw [build] at hok
  split at hok
  · cases hok
  · next predicates hpredicates =>
    rcases h.collect_of_eq_ok hpredicates with hsame | ⟨pair, hpair, candidates, hfails⟩
    · exact Or.inl (by rw [build, hsame, ← hok])
    · exact Or.inr ⟨pair, hpair, candidates, by rw [build, hfails]⟩

namespace Settings

/-- **A build fails because a name it uses is ambiguous.** -/
def FailsAmbiguous (s : Settings) (catalog : Catalog) : Prop :=
  ∃ name candidates,
    name ∈ s.groupBy ∧ s.build catalog =
      .error (.levelResolutionFailed (.groupBy (.ambiguous name candidates))) ∨
    name ∈ s.selection.names ∧ s.build catalog =
      .error (.levelResolutionFailed (.selection (.ambiguous name candidates)))

/-- The second stage gives the same clauses in a grown cube, or a name has become ambiguous. -/
theorem clauses_grown (h : c.Grows c') {names : List String} {pairs : List (String × String)}
    {found : GammaClause × SigmaClause} (hok : clauses c names pairs = .ok found) :
    clauses c' names pairs = .ok found ∨ ∃ name candidates,
      name ∈ names ∧ clauses c' names pairs =
        .error (.levelResolutionFailed (.groupBy (.ambiguous name candidates))) ∨
      name ∈ pairs.map Prod.fst ∧ clauses c' names pairs =
        .error (.levelResolutionFailed (.selection (.ambiguous name candidates))) := by
  simp only [clauses, bind_eq_ok_iff, mapError_eq_ok_iff] at hok
  obtain ⟨gamma, hgamma, sigma, hsigma, hfound⟩ := hok
  cases hfound
  rcases GammaClause.build_grown h hgamma with hgamma' | ⟨name, hname, candidates, hfails⟩
  · rcases SigmaClause.build_grown h hsigma with hsigma' | ⟨pair, hpair, candidates, hfails⟩
    · refine Or.inl ?_
      rw [clauses, hgamma', hsigma']
      rfl
    · refine Or.inr ⟨pair.1, candidates, Or.inr ⟨List.mem_map_of_mem hpair, ?_⟩⟩
      rw [clauses, hgamma', hfails]
      rfl
  · refine Or.inr ⟨name, candidates, Or.inl ⟨hname, ?_⟩⟩
    rw [clauses, hfails]
    rfl

/-! ## The cube in a catalog -/

/-- **With another cube held in place of one, the first stage finds what it did, or that one and now
the other.** -/
theorem target_insert {s : Settings} {catalog : Catalog} (hname : c'.name = c.name)
    (hheld : catalog.find? c.name = some c) :
    s.target (catalog.insert c').2 = s.target catalog ∨
      ∃ target : Target, s.target catalog = .ok { target with cube := c } ∧
        s.target (catalog.insert c').2 = .ok { target with cube := c' } := by
  -- the catalogs differ in what they answer to one lower-cased name
  have hother : ∀ name, Text.lower name ≠ Text.lower c.name →
      (catalog.insert c').2.find? name = catalog.find? name := by
    intro name hne
    rw [Catalog.find?_insert, hname, if_neg hne]
  have hsame : ∀ name, Text.lower name = Text.lower c.name →
      catalog.find? name = some c ∧ (catalog.insert c').2.find? name = some c' := by
    intro name heq
    rw [Catalog.find?_insert, hname, if_pos heq, Catalog.find?, heq]
    exact ⟨hheld, rfl⟩
  rw [target, target]
  cases required .targetCube s.targetCube with
  | error e => exact Or.inl rfl
  | ok cubeName =>
    cases required .aggregation s.aggregation with
    | error e => exact Or.inl rfl
    | ok aggregation =>
      cases required .measurement s.measurement with
      | error e => exact Or.inl rfl
      | ok measurement =>
        cases s.benchmark with
        | none => exact Or.inl rfl
        | some benchmark =>
          simp only [bind, Except.bind]
          by_cases hdeltas : s.deltaFunctions.isEmpty = true
          · simp only [hdeltas, if_true, true_or]
          · by_cases hkey : Text.lower (Text.lower cubeName) = Text.lower c.name
            · obtain ⟨hfind, hfind'⟩ := hsame _ hkey
              refine Or.inr ⟨⟨Text.lower cubeName, c, aggregation, measurement, benchmark⟩, ?_⟩
              simp only [hdeltas, hfind, hfind']
              exact ⟨rfl, rfl⟩
            · refine Or.inl ?_
              rw [hother _ hkey]

/-! ## The build -/

/-- **A query built over a cube is built over the grown cube, or a name has become ambiguous.** -/
theorem build_grown (h : c.Grows c') {s : Settings} {catalog : Catalog}
    (hheld : catalog.find? c.name = some c) {q : Query} (hok : s.build catalog = .ok q) :
    s.build (catalog.insert c').2 = .ok q ∨ s.FailsAmbiguous (catalog.insert c').2 := by
  rcases s.target_insert h.name_eq hheld with hsame | ⟨target, htarget, htarget'⟩
  · rw [build_eq, hsame, ← build_eq]
    exact Or.inl hok
  · rw [build_eq, htarget, bind_eq_ok_iff] at hok
    obtain ⟨_, hcube, hok⟩ := hok
    cases hcube
    obtain ⟨found, hfound, hmeasure⟩ := bind_eq_ok_iff.mp hok
    have hbuild : s.build (catalog.insert c').2 =
        clauses c' s.groupBy s.selection.entries >>= fun found =>
          s.measure target.benchmark >>= fun measure =>
            .ok (Query.ofStages { target with cube := c' } found.1 found.2 measure) := by
      rw [build_eq, htarget']
      rfl
    rcases clauses_grown h hfound with hfound' | ⟨name, candidates, hfails⟩
    · refine Or.inl ?_
      rw [hbuild, hfound']
      exact hmeasure
    · refine Or.inr ⟨name, candidates, hfails.imp ?_ ?_⟩
      · rintro ⟨hname, hfails⟩
        refine ⟨hname, ?_⟩
        rw [hbuild, hfails]
        rfl
      · rintro ⟨hname, hfails⟩
        refine ⟨hname, ?_⟩
        rw [hbuild, hfails]
        rfl

/-- **When nothing added bears a name that is used, a build does not change.** -/
theorem build_eq_of_not_adds (h : c.Grows c') {s : Settings} {catalog : Catalog}
    (hheld : catalog.find? c.name = some c)
    (hnames : ∀ name ∈ s.groupBy ++ s.selection.names, ¬ c.Adds c' name) :
    s.build (catalog.insert c').2 = s.build catalog := by
  have hgamma : c'.collect id (fun _ level => level) s.groupBy =
      c.collect id (fun _ level => level) s.groupBy :=
    Cube.collect_congr_cube fun name hname =>
      h.resolve_eq_of_not_adds (hnames name (List.mem_append_left _ hname))
  have hsigma : c'.collect Prod.fst (fun pair level => Predicate.mk level pair.2)
        s.selection.entries =
      c.collect Prod.fst (fun pair level => Predicate.mk level pair.2) s.selection.entries :=
    Cube.collect_congr_cube fun pair hpair =>
      h.resolve_eq_of_not_adds
        (hnames pair.1 (List.mem_append_right _ (List.mem_map_of_mem hpair)))
  have hclauses : clauses c' s.groupBy s.selection.entries =
      clauses c s.groupBy s.selection.entries := by
    rw [clauses, GammaClause.build, SigmaClause.build, hgamma, hsigma]
    rfl
  rcases s.target_insert h.name_eq hheld with hsame | ⟨target, htarget, htarget'⟩
  · rw [build_eq, hsame, ← build_eq]
  · rw [build_eq, build_eq, htarget, htarget']
    change clauses c' s.groupBy s.selection.entries >>= _ =
      clauses c s.groupBy s.selection.entries >>= _
    rw [hclauses]
    rfl

end Settings

/-- **Growing a schema never silently gives a name or a query another meaning.** A name that
resolved resolves to the same level in the grown cube or is ambiguous with that level among the
candidates; an ambiguous name stays ambiguous, with at least its candidates. A query that was built
over a catalog holding the cube is, over the catalog holding the grown one instead, built equal in
all its fields, or the build fails because a name it uses is ambiguous; and it is built equal
whenever nothing added bears a name it uses. -/
theorem Cube.Grows.resolve_and_build (h : c.Grows c') :
    (∀ name r, c.resolve name = .ok r → c'.resolve name = .ok r ∨
      ∃ candidates, c'.resolve name = .error (.ambiguous name candidates) ∧
        r.text ∈ candidates.map LevelRef.text) ∧
    (∀ name candidates, c.resolve name = .error (.ambiguous name candidates) →
      ∃ candidates', c'.resolve name = .error (.ambiguous name candidates') ∧
        candidates.map LevelRef.text ⊆ candidates'.map LevelRef.text) ∧
    ∀ (s : Settings) (catalog : Catalog) (q : Query), catalog.find? c.name = some c →
      s.build catalog = .ok q →
      (s.build (catalog.insert c').2 = .ok q ∨ s.FailsAmbiguous (catalog.insert c').2) ∧
      ((∀ name ∈ s.groupBy ++ s.selection.names, ¬ c.Adds c' name) →
        s.build (catalog.insert c').2 = .ok q) := by
  refine ⟨fun name r hr => ?_, fun name candidates hr => ?_, fun s catalog q hheld hok => ⟨?_, ?_⟩⟩
  · refine (h.resolve_of_eq_ok hr).imp_right ?_
    rintro ⟨candidates, hambiguous, hmem⟩
    exact ⟨candidates, hambiguous, List.mem_map_of_mem hmem⟩
  · obtain ⟨candidates', hambiguous, hsubset⟩ := h.resolve_of_eq_ambiguous hr
    exact ⟨candidates', hambiguous, List.map_subset _ hsubset⟩
  · exact Settings.build_grown h hheld hok
  · intro hnames
    rw [Settings.build_eq_of_not_adds h hheld hnames, hok]

/-- Stores, and weeks beside the months, are added to the dates; months stay what they were. -/
theorem Cube.Grows.build_months_beside_weeks :
    (⟨"Sales", [⟨"date", ⟨"day", ["month"]⟩, []⟩]⟩ : Cube).Grows
      ⟨"Sales", [⟨"store", ⟨"shop", ["city"]⟩, []⟩,
        ⟨"date", ⟨"day", ["month"]⟩, [⟨"day", ["week"]⟩]⟩]⟩ ∧
    ∃ q, q.gamma = ⟨[⟨"date", 1⟩]⟩ ∧
      (⟨some "SALES", .ofList [("month", "May")], ["month"], some "sum", some "amount",
        some (.details ["past", "4"]), ["ratio"], [⟨"(", "-inf", "inf", ")", "any"⟩]⟩ :
        Settings).build (.ofList [⟨"Sales", [⟨"date", ⟨"day", ["month"]⟩, []⟩]⟩]) = .ok q ∧
      (⟨some "SALES", .ofList [("month", "May")], ["month"], some "sum", some "amount",
        some (.details ["past", "4"]), ["ratio"], [⟨"(", "-inf", "inf", ")", "any"⟩]⟩ :
        Settings).build ((Catalog.ofList [⟨"Sales", [⟨"date", ⟨"day", ["month"]⟩, []⟩]⟩]).insert
          ⟨"Sales", [⟨"store", ⟨"shop", ["city"]⟩, []⟩,
            ⟨"date", ⟨"day", ["month"]⟩, [⟨"day", ["week"]⟩]⟩]⟩).2 = .ok q := by
  have hgrows : (⟨"Sales", [⟨"date", ⟨"day", ["month"]⟩, []⟩]⟩ : Cube).Grows
      ⟨"Sales", [⟨"store", ⟨"shop", ["city"]⟩, []⟩,
        ⟨"date", ⟨"day", ["month"]⟩, [⟨"day", ["week"]⟩]⟩]⟩ := ⟨rfl, by decide⟩
  obtain ⟨q, hq, hgamma⟩ := map_eq_ok_iff.mp (show ((⟨some "SALES", .ofList [("month", "May")],
      ["month"], some "sum", some "amount", some (.details ["past", "4"]), ["ratio"],
      [⟨"(", "-inf", "inf", ")", "any"⟩]⟩ : Settings).build
        (.ofList [⟨"Sales", [⟨"date", ⟨"day", ["month"]⟩, []⟩]⟩])).map Query.gamma =
      .ok ⟨[⟨"date", 1⟩]⟩ by decide +kernel)
  refine ⟨hgrows, q, hgamma, hq, ?_⟩
  exact (hgrows.resolve_and_build.2.2 _ _ q (by decide +kernel) hq).2 (by decide)

end CubeAssessment
