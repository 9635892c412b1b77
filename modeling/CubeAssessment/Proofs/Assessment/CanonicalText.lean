import CubeAssessment.Proofs.Assessment.Blame
import CubeAssessment.Proofs.ClauseText

/-! # Reading the canonical text back

The canonical text of a query joins names and literals with separators that are not escaped where
they occur in them. The target cube can always be read back, as it is in lower case and the keys of
the lines are not. Everything else can be read back as far as separators stay out of the names and
literals they would be mistaken in (`Query.fields_eq_of_text_eq`), and not without
(`Settings.texts_not_told_apart`). -/

namespace CubeAssessment

/-! ## Lines -/

namespace Query

/-- The line of the aggregation function, with the line feeds on both sides. -/
def functionLine (aggregation : List Char) : List Char :=
  ['\n', 'A', 'g', 'g', 'r', 'F', 'u', 'n', 'c', ':'] ++ (aggregation ++ ['\n'])

/-- The characters between the two places of the measurement: the line of the aggregation function
and the key of the next line. -/
def middle (aggregation : List Char) : List Char :=
  functionLine aggregation ++ 'M' :: ['e', 'a', 's', 'u', 'r', 'e', ':']

/-- The lines of the clauses, without the line feed in front. -/
def clauseLines (gamma sigma : List Char) : List Char :=
  (['G', 'a', 'm', 'm', 'a', ':'] ++ gamma) ++ '\n' :: (['S', 'i', 'g', 'm', 'a', ':'] ++ sigma)

/-- **The characters of the canonical text**, the name put together from its parts. -/
theorem toList_text {q : Query} (hname : q.name = q.targetCube ++ "_" ++ q.measurement) :
    q.text.toList = ['C', 'u', 'b', 'e', 'N', 'a', 'm', 'e', ':'] ++
      ((q.targetCube.toList ++ ['\n']) ++ 'N' :: ((['a', 'm', 'e', ':'] ++
        (q.targetCube.toList ++ ['_'])) ++
          ((q.measurement.toList ++ (middle q.aggregation.toList ++ q.measurement.toList)) ++
            '\n' :: clauseLines q.gamma.text.toList q.sigma.text.toList))) := by
  simp [text, lines, hname, middle, functionLine, clauseLines]

section Lines

variable {m m' a a' g g' s s' : List Char}

/-- The line of a lower-cased aggregation function has no capital `M`. -/
theorem not_mem_functionLine (ha : 'M' ∉ a) : 'M' ∉ functionLine a := by
  simp [functionLine, ha]

/-- A middle has one capital `M`. -/
theorem count_middle (ha : 'M' ∉ a) : (middle a).count 'M' = 1 := by
  rw [middle, List.count_append, List.count_eq_zero.mpr (not_mem_functionLine ha)]
  rfl

/-- **A middle within another ends where it does.** -/
theorem eq_nil_of_middle_eq (ha : 'M' ∉ a) (ha' : 'M' ∉ a') {x y : List Char}
    (h : middle a = x ++ (middle a' ++ y)) : y = [] := by
  -- the one capital of the outer middle is that of the inner one, so none stands before it
  have hcount : (middle a).count 'M' = x.count 'M' + ((middle a').count 'M' + y.count 'M') := by
    rw [h, List.count_append, List.count_append]
  rw [count_middle ha, count_middle ha'] at hcount
  have hx : 'M' ∉ x := List.count_eq_zero.mp (by omega)
  have hfront : 'M' ∉ x ++ functionLine a' := fun hmem =>
    (List.mem_append.mp hmem).elim hx (not_mem_functionLine ha')
  have hsplit : functionLine a ++ 'M' :: ['e', 'a', 's', 'u', 'r', 'e', ':'] =
      (x ++ functionLine a') ++ 'M' :: (['e', 'a', 's', 'u', 'r', 'e', ':'] ++ y) := by
    simpa [middle] using h
  obtain ⟨-, hrest⟩ := Text.eq_of_append_cons_eq (not_mem_functionLine ha) hfront hsplit
  simpa using hrest

/-- **A measurement on both sides of a middle is read back**, whatever it is. -/
theorem eq_of_framed_middle_eq (ha : 'M' ∉ a) (ha' : 'M' ∉ a')
    (h : m ++ (middle a ++ m) = m' ++ (middle a' ++ m')) : m = m' := by
  rcases le_total m.length m'.length with hle | hle
  · obtain ⟨x, y, -, hy, hmiddle⟩ := Text.exists_of_framed_eq h hle
    rw [hy, eq_nil_of_middle_eq ha ha' hmiddle, List.nil_append]
  · obtain ⟨x, y, -, hy, hmiddle⟩ := Text.exists_of_framed_eq h.symm hle
    rw [hy, eq_nil_of_middle_eq ha' ha hmiddle, List.nil_append]

/-- A middle determines its aggregation function. -/
theorem eq_of_middle_eq (h : middle a = middle a') : a = a' := by
  simpa [middle, functionLine] using h

/-- **A measurement of one line is read back from the left**, and then the aggregation function. -/
theorem eq_of_framed_append_eq (ha : 'M' ∉ a) (ha' : 'M' ∉ a') (hm : '\n' ∉ m) (hm' : '\n' ∉ m')
    {rest rest' : List Char}
    (h : (m ++ (middle a ++ m)) ++ rest = (m' ++ (middle a' ++ m')) ++ rest') :
    m = m' ∧ a = a' ∧ rest = rest' := by
  have hline : ∀ {m a rest : List Char}, (m ++ (middle a ++ m)) ++ rest =
      m ++ '\n' :: ((functionLine a).tail ++ 'M' :: (['e', 'a', 's', 'u', 'r', 'e', ':'] ++
        (m ++ rest))) := by
    intro m a rest
    simp [middle, functionLine]
  rw [hline, hline] at h
  -- the first line feed ends the measurement, the first capital behind it the next line
  obtain ⟨rfl, hrest⟩ := Text.eq_of_append_cons_eq hm hm' h
  have htail : ∀ {a : List Char}, 'M' ∉ a → 'M' ∉ (functionLine a).tail :=
    fun ha hmem => not_mem_functionLine ha (List.mem_of_mem_tail hmem)
  obtain ⟨hfunction, hrest⟩ := Text.eq_of_append_cons_eq (htail ha) (htail ha') hrest
  refine ⟨rfl, by simpa [functionLine] using hfunction, ?_⟩
  exact List.append_cancel_left (List.append_cancel_left hrest)

/-- The key of the group-by clause stands in front of it on one line. -/
theorem not_mem_gammaLine (hg : '\n' ∉ g) : '\n' ∉ ['G', 'a', 'm', 'm', 'a', ':'] ++ g := by
  simp [hg]

/-- The lines of the clauses are read back when the first clause is one line. -/
theorem eq_of_clauseLines_eq (hg : '\n' ∉ g) (hg' : '\n' ∉ g')
    (h : clauseLines g s = clauseLines g' s') : g = g' ∧ s = s' := by
  obtain ⟨hgamma, hsigma⟩ :=
    Text.eq_of_append_cons_eq (not_mem_gammaLine hg) (not_mem_gammaLine hg') h
  exact ⟨List.append_cancel_left hgamma, List.append_cancel_left hsigma⟩

/-- **Clauses of one line each are read back from the right**, and so is what stands in front. -/
theorem eq_of_append_clauseLines_eq (hg : '\n' ∉ g) (hg' : '\n' ∉ g') (hs : '\n' ∉ s)
    (hs' : '\n' ∉ s') {front front' : List Char}
    (h : front ++ '\n' :: clauseLines g s = front' ++ '\n' :: clauseLines g' s') :
    front = front' ∧ clauseLines g s = clauseLines g' s' := by
  have hsigmaLine : ∀ {s : List Char}, '\n' ∉ s → '\n' ∉ ['S', 'i', 'g', 'm', 'a', ':'] ++ s := by
    intro s hs
    simp [hs]
  have hlast : (front ++ '\n' :: (['G', 'a', 'm', 'm', 'a', ':'] ++ g)) ++
        '\n' :: (['S', 'i', 'g', 'm', 'a', ':'] ++ s) =
      (front' ++ '\n' :: (['G', 'a', 'm', 'm', 'a', ':'] ++ g')) ++
        '\n' :: (['S', 'i', 'g', 'm', 'a', ':'] ++ s') := by
    simpa [clauseLines] using h
  -- the last two line feeds are those in front of the clauses
  obtain ⟨hfirst, -⟩ := Text.eq_of_append_cons_eq_right (hsigmaLine hs) (hsigmaLine hs') hlast
  obtain ⟨hfront, -⟩ :=
    Text.eq_of_append_cons_eq_right (not_mem_gammaLine hg) (not_mem_gammaLine hg') hfirst
  rw [hfront, List.append_cancel_left_eq, List.cons.injEq] at h
  exact ⟨hfront, h.2⟩

end Lines

/-! ## Queries of one text -/

/-- A lower-cased text has no capital letter of the keys. -/
theorem capitals_not_mem_lower (text : String) :
    'M' ∉ (Text.lower text).toList ∧ 'N' ∉ (Text.lower text).toList := by
  constructor
  · exact fun hmem => absurd (Text.isSmall_of_mem_lower hmem) (by decide)
  · exact fun hmem => absurd (Text.isSmall_of_mem_lower hmem) (by decide)

/-- **A query that is built** has no capital letter of the keys in the names of the target cube and
the aggregation function, and its name is put together from the target cube and the measurement. -/
theorem of_build_eq_ok {s : Settings} {catalog : Catalog} {q : Query}
    (h : s.build catalog = .ok q) : 'N' ∉ q.targetCube.toList ∧ 'M' ∉ q.aggregation.toList ∧
      q.name = q.targetCube ++ "_" ++ q.measurement := by
  obtain ⟨target, htarget, found, -, measure, -, rfl⟩ := Settings.build_eq_ok_iff.mp h
  refine ⟨?_, (capitals_not_mem_lower target.aggregation).1, rfl⟩
  obtain ⟨text, -, hname⟩ := Option.map_eq_some_iff.mp (Settings.of_target_eq_ok htarget).1
  change 'N' ∉ target.cubeName.toList
  rw [← hname]
  exact (capitals_not_mem_lower _).2

variable {s s' : Settings} {catalog catalog' : Catalog} {q q' : Query}

/-- **Queries of one text have one target cube**, and agree in all that follows its name. -/
theorem targetCube_eq_of_text_eq (hq : s.build catalog = .ok q) (hq' : s'.build catalog' = .ok q')
    (h : q.text = q'.text) : q.targetCube = q'.targetCube ∧
      (q.measurement.toList ++ (middle q.aggregation.toList ++ q.measurement.toList)) ++
          '\n' :: clauseLines q.gamma.text.toList q.sigma.text.toList =
        (q'.measurement.toList ++ (middle q'.aggregation.toList ++ q'.measurement.toList)) ++
          '\n' :: clauseLines q'.gamma.text.toList q'.sigma.text.toList := by
  obtain ⟨hcapital, -, hname⟩ := of_build_eq_ok hq
  obtain ⟨hcapital', -, hname'⟩ := of_build_eq_ok hq'
  rw [← String.toList_inj, toList_text hname, toList_text hname',
    List.append_cancel_left_eq] at h
  obtain ⟨hcube, hrest⟩ := Text.eq_of_append_cons_eq (by simp [hcapital]) (by simp [hcapital']) h
  have hcube : q.targetCube = q'.targetCube :=
    String.toList_inj.mp (List.append_cancel_right hcube)
  rw [hcube] at hrest
  exact ⟨hcube, List.append_cancel_left hrest⟩

/-- **What the canonical text identifies.** Queries of one text have one target cube. When neither
measurement has a line feed they have one name, aggregation function and measurement. When no name
grouped by has a line feed, and neither measurement has one or neither selection clause, they have
these in common, the group-by clause too unless a name in it has a comma, and the selection clause
too unless its quotes cannot be told apart. -/
theorem fields_eq_of_text_eq (hq : s.build catalog = .ok q) (hq' : s'.build catalog' = .ok q')
    (h : q.text = q'.text) :
    q.targetCube = q'.targetCube ∧
    ('\n' ∉ q.measurement.toList → '\n' ∉ q'.measurement.toList →
      q.name = q'.name ∧ q.aggregation = q'.aggregation ∧ q.measurement = q'.measurement) ∧
    (q.gamma.Omits '\n' → q'.gamma.Omits '\n' →
      ('\n' ∉ q.measurement.toList ∧ '\n' ∉ q'.measurement.toList ∨
        q.sigma.Omits '\n' ∧ q'.sigma.Omits '\n') →
      (q.name = q'.name ∧ q.aggregation = q'.aggregation ∧ q.measurement = q'.measurement) ∧
      (q.gamma.Omits ',' → q'.gamma.Omits ',' → q.gamma = q'.gamma) ∧
      ((∀ p ∈ q.sigma.predicates, p.Quotable) → (∀ p ∈ q'.sigma.predicates, p.Quotable) →
        q.sigma = q'.sigma)) := by
  obtain ⟨hcube, hrest⟩ := targetCube_eq_of_text_eq hq hq' h
  obtain ⟨-, hcapital, hname⟩ := of_build_eq_ok hq
  obtain ⟨-, hcapital', hname'⟩ := of_build_eq_ok hq'
  have hfields : q.measurement.toList = q'.measurement.toList →
      q.aggregation.toList = q'.aggregation.toList →
      q.name = q'.name ∧ q.aggregation = q'.aggregation ∧ q.measurement = q'.measurement := by
    intro hmeasurement haggregation
    have hmeasurement := String.toList_inj.mp hmeasurement
    exact ⟨by rw [hname, hname', hcube, hmeasurement], String.toList_inj.mp haggregation,
      hmeasurement⟩
  refine ⟨hcube, fun hm hm' => ?_, fun hg hg' hlines => ?_⟩
  · obtain ⟨hmeasurement, haggregation, -⟩ :=
      eq_of_framed_append_eq hcapital hcapital' hm hm' hrest
    exact hfields hmeasurement haggregation
  · -- either way the lines come apart, from the left or from the right
    have hapart : q.measurement.toList = q'.measurement.toList ∧
        q.aggregation.toList = q'.aggregation.toList ∧
        clauseLines q.gamma.text.toList q.sigma.text.toList =
          clauseLines q'.gamma.text.toList q'.sigma.text.toList := by
      rcases hlines with ⟨hm, hm'⟩ | ⟨hs, hs'⟩
      · obtain ⟨hmeasurement, haggregation, hclauses⟩ :=
          eq_of_framed_append_eq hcapital hcapital' hm hm' hrest
        exact ⟨hmeasurement, haggregation, List.tail_eq_of_cons_eq hclauses⟩
      · obtain ⟨hframed, hclauses⟩ := eq_of_append_clauseLines_eq hg.not_mem_toList_text
          hg'.not_mem_toList_text hs.not_mem_toList_text hs'.not_mem_toList_text hrest
        have hmeasurement :=
          eq_of_framed_middle_eq hcapital hcapital' hframed
        rw [hmeasurement, List.append_cancel_left_eq, List.append_cancel_right_eq] at hframed
        exact ⟨hmeasurement, eq_of_middle_eq hframed, hclauses⟩
    obtain ⟨hmeasurement, haggregation, hclauses⟩ := hapart
    obtain ⟨hgamma, hsigma⟩ :=
      eq_of_clauseLines_eq hg.not_mem_toList_text hg'.not_mem_toList_text hclauses
    exact ⟨hfields hmeasurement haggregation,
      fun hcomma hcomma' => GammaClause.eq_of_toList_text_eq hcomma hcomma' hgamma,
      fun hquotes hquotes' => SigmaClause.eq_of_toList_text_eq hquotes hquotes' hsigma⟩

/-! ## Queries over a cube of sales -/

/-- The settings of a query that its canonical text shows. -/
def shown (q : Query) : String × String × String × String × GammaClause × SigmaClause :=
  (q.targetCube, q.name, q.aggregation, q.measurement, q.gamma, q.sigma)

/-- The canonical text from what it shows. -/
theorem text_of_shown_eq {q : Query} {targetCube name aggregation measurement : String}
    {gamma : GammaClause} {sigma : SigmaClause}
    (h : q.shown = (targetCube, name, aggregation, measurement, gamma, sigma)) :
    q.text = "\n".intercalate ["CubeName:" ++ targetCube, "Name:" ++ name,
      "AggrFunc:" ++ aggregation, "Measure:" ++ measurement, "Gamma:" ++ gamma.text,
      "Sigma:" ++ sigma.text] := by
  cases h
  rfl

end Query

/-- A cube of sales, some of whose dimensions have separators in their names. -/
def Cube.sales : Cube :=
  ⟨"sales", [⟨"date", ⟨"day", []⟩, []⟩, ⟨"store", ⟨"shop", []⟩, []⟩,
    ⟨"date.lvl0,store", ⟨"row", []⟩, []⟩, ⟨"date.lvl0='store", ⟨"row", []⟩, []⟩,
    ⟨"date.lvl0\nSigma:x", ⟨"row", []⟩, []⟩, ⟨"x.lvl0\nSigma:store", ⟨"row", []⟩, []⟩]⟩

namespace Settings

/-- Settings that assess a measurement of the sales, grouped and selected as told. -/
def ofSales (measurement aggregation : String) (groupBy : List String)
    (selection : List (String × String)) : Settings :=
  ⟨some "sales", .ofList selection, groupBy, some aggregation, some measurement,
    some (.details ["past", "4"]), ["ratio"], [⟨"(", "-inf", "inf", ")", "any"⟩]⟩

/-- The query of settings over the sales, from the clauses that are found. -/
theorem exists_build_ofSales {measurement aggregation m a : String} {groupBy : List String}
    {selection : List (String × String)} {gamma : GammaClause} {sigma : SigmaClause}
    (hm : required .measurement (some measurement) = .ok m)
    (ha : required .aggregation (some aggregation) = .ok a)
    (hclauses : clauses .sales groupBy (NameMap.ofList selection).entries = .ok (gamma, sigma)) :
    ∃ q, (ofSales measurement aggregation groupBy selection).build (.ofList [.sales]) = .ok q ∧
      q.shown = ("sales", "sales_" ++ m, Text.lower a, m, gamma, sigma) := by
  have hname : required .targetCube (some "sales") = .ok "sales" := by decide +kernel
  have hlower : Text.lower "sales" = "sales" := by decide +kernel
  have hfind : (Catalog.ofList [Cube.sales]).find? "sales" = some .sales := by decide +kernel
  have htarget : (ofSales measurement aggregation groupBy selection).target (.ofList [.sales]) =
      .ok ⟨"sales", .sales, a, m, .details ["past", "4"]⟩ := by
    rw [target, bind_eq_ok_iff]
    refine ⟨_, hname, bind_eq_ok_iff.mpr ⟨_, ha, bind_eq_ok_iff.mpr ⟨_, hm, ?_⟩⟩⟩
    simp [ofSales, hlower, hfind]
  obtain ⟨measure, hmeasure, -⟩ := map_eq_ok_iff.mp (show
    ((ofSales "" "" [] []).measure (.details ["past", "4"])).map Measure.deltaFunctions =
      .ok [.ratio] by decide +kernel)
  refine ⟨Query.ofStages ⟨"sales", .sales, a, m, .details ["past", "4"]⟩ gamma sigma measure, ?_,
    rfl⟩
  rw [build_eq, htarget]
  change clauses .sales groupBy (NameMap.ofList selection).entries >>= _ = _
  rw [hclauses]
  change (ofSales "" "" [] []).measure (.details ["past", "4"]) >>= _ = _
  rw [hmeasure]
  rfl

/-- A build over the sales is read back from its text, also with a quote in a literal, and however
the settings were spelled. -/
theorem fields_eq_of_sales_text_eq : ∃ q q',
    (ofSales "amount" "SUM" ["date"] [("store", "L'Aquila")]).build (.ofList [.sales]) = .ok q ∧
    (ofSales " amount" "sum" ["day"] [("shop", "L'Aquila")]).build (.ofList [.sales]) = .ok q' ∧
    q.text = q'.text ∧ q.targetCube = q'.targetCube ∧
    (q.name = q'.name ∧ q.aggregation = q'.aggregation ∧ q.measurement = q'.measurement) ∧
    q.gamma = q'.gamma ∧ q.sigma = q'.sigma := by
  have hclauses : clauses .sales ["date"] (NameMap.ofList [("store", "L'Aquila")]).entries =
      .ok (⟨[⟨"date", 0⟩]⟩, ⟨[⟨⟨"store", 0⟩, "L'Aquila"⟩]⟩) := by decide +kernel
  have hclauses' : clauses .sales ["day"] (NameMap.ofList [("shop", "L'Aquila")]).entries =
      .ok (⟨[⟨"date", 0⟩]⟩, ⟨[⟨⟨"store", 0⟩, "L'Aquila"⟩]⟩) := by decide +kernel
  have hamount : required .measurement (some "amount") = .ok "amount" := by decide +kernel
  have hamount' : required .measurement (some " amount") = .ok "amount" := by decide +kernel
  have hsum : required .aggregation (some "SUM") = .ok "SUM" := by decide +kernel
  have hsum' : required .aggregation (some "sum") = .ok "sum" := by decide +kernel
  obtain ⟨q, hq, hshown⟩ := exists_build_ofSales hamount hsum hclauses
  obtain ⟨q', hq', hshown'⟩ := exists_build_ofSales hamount' hsum' hclauses'
  have hlower : Text.lower "SUM" = Text.lower "sum" := by decide +kernel
  have htext : q.text = q'.text := by
    rw [Query.text_of_shown_eq hshown, Query.text_of_shown_eq hshown', hlower]
  have hreadable : ∀ {r : Query}, r.shown.2.2.2 =
      ("amount", ⟨[⟨"date", 0⟩]⟩, ⟨[⟨⟨"store", 0⟩, "L'Aquila"⟩]⟩) →
      '\n' ∉ r.measurement.toList ∧ r.gamma.Omits '\n' ∧ r.gamma.Omits ',' ∧
        ∀ p ∈ r.sigma.predicates, p.Quotable := by
    intro r hr
    rw [Query.shown, Prod.mk.injEq, Prod.mk.injEq] at hr
    obtain ⟨hmeasurement, hgamma, hsigma⟩ := hr
    rw [hmeasurement, hgamma, hsigma]
    decide
  obtain ⟨hline, hfeed, hcomma, hquotes⟩ := hreadable (r := q) (by rw [hshown])
  obtain ⟨hline', hfeed', hcomma', hquotes'⟩ := hreadable (r := q') (by rw [hshown'])
  obtain ⟨hcube, -, hlines⟩ := Query.fields_eq_of_text_eq hq hq' htext
  obtain ⟨hfields, hgamma, hsigma⟩ := hlines hfeed hfeed' (Or.inl ⟨hline, hline'⟩)
  exact ⟨q, q', hq, hq', htext, hcube, hfields, hgamma hcomma hcomma', hsigma hquotes hquotes'⟩

/-! ## Texts that are not told apart -/

/-- **Two settings whose queries over a catalog differ in what their one text shows.** -/
def Confused (catalog : Catalog) (s s' : Settings) : Prop :=
  ∃ q q', s.build catalog = .ok q ∧ s'.build catalog = .ok q' ∧ q.text = q'.text ∧
    q.shown ≠ q'.shown

/-- Settings over the sales are confused when they differ in measurement or clauses and the lines
of their texts run together to one. -/
theorem confused_of_clauses {m m' a a' : String} {names names' : List String}
    {pairs pairs' : List (String × String)} (gamma : GammaClause) (sigma : SigmaClause)
    (gamma' : GammaClause) (sigma' : SigmaClause)
    (hm : ∀ measurement ∈ [m, m'], required .measurement (some measurement) = .ok measurement)
    (ha : ∀ function ∈ [a, a'], required .aggregation (some function) = .ok function)
    (hclauses : clauses .sales names (NameMap.ofList pairs).entries = .ok (gamma, sigma))
    (hclauses' : clauses .sales names' (NameMap.ofList pairs').entries = .ok (gamma', sigma'))
    (htext : "\n".intercalate ["CubeName:sales", "Name:sales_" ++ m, "AggrFunc:" ++ Text.lower a,
        "Measure:" ++ m, "Gamma:" ++ gamma.text, "Sigma:" ++ sigma.text] =
      "\n".intercalate ["CubeName:sales", "Name:sales_" ++ m', "AggrFunc:" ++ Text.lower a',
        "Measure:" ++ m', "Gamma:" ++ gamma'.text, "Sigma:" ++ sigma'.text])
    (hne : (m, gamma, sigma) ≠ (m', gamma', sigma')) :
    Confused (.ofList [.sales]) (ofSales m a names pairs) (ofSales m' a' names' pairs') := by
  obtain ⟨q, hq, hshown⟩ := exists_build_ofSales (hm m (by simp)) (ha a (by simp)) hclauses
  obtain ⟨q', hq', hshown'⟩ := exists_build_ofSales (hm m' (by simp)) (ha a' (by simp)) hclauses'
  refine ⟨q, q', hq, hq', ?_, ?_⟩
  · rw [Query.text_of_shown_eq hshown, Query.text_of_shown_eq hshown', ← String.append_assoc,
      ← String.append_assoc]
    exact htext
  · rw [hshown, hshown']
    intro heq
    simp only [Prod.mk.injEq] at heq
    simp [heq] at hne

/-- **Texts that do not tell queries apart**: each kind of separator that is not kept out of the
names and literals lets two builds over the sales end in one text with different contents. -/
theorem texts_not_told_apart :
    Confused (.ofList [.sales]) (ofSales "m" "a" [] [("date", "a',store.lvl0='b")])
      (ofSales "m" "a" [] [("date", "a"), ("store", "b")]) ∧
    Confused (.ofList [.sales]) (ofSales "m" "a" ["date.lvl0,store"] [])
      (ofSales "m" "a" ["date", "store"] []) ∧
    Confused (.ofList [.sales]) (ofSales "m" "a" [] [("date.lvl0='store", "b")])
      (ofSales "m" "a" [] [("date", "store.lvl0='b")]) ∧
    Confused (.ofList [.sales]) (ofSales "m" "a" ["date.lvl0\nSigma:x"] [("store", "b")])
      (ofSales "m" "a" ["date"] [("x.lvl0\nSigma:store", "b")]) ∧
    Confused (.ofList [.sales])
      (ofSales "m" "a" [] [("date", "v\nAggrFunc:b\nMeasure:m\nAggrFunc:a\nMeasure:m\nGamma:\n" ++
        "Sigma:date.lvl0='v\nGamma:\nSigma:store.lvl0='w")])
      (ofSales "m\nAggrFunc:a\nMeasure:m\nGamma:\nSigma:date.lvl0='v" "b" []
        [("store", "w")]) := by
  refine ⟨?_, ?_, ?_, ?_, ?_⟩
  -- the literal goes on like a second predicate
  · exact confused_of_clauses ⟨[]⟩ ⟨[⟨⟨"date", 0⟩, "a',store.lvl0='b"⟩]⟩
      ⟨[]⟩ ⟨[⟨⟨"date", 0⟩, "a"⟩, ⟨⟨"store", 0⟩, "b"⟩]⟩
      (by decide +kernel) (by decide +kernel) (by decide +kernel)
      (by rw [clauses, SigmaClause.build, Cube.collect_of_sorted (by decide)]; decide +kernel)
      (by decide +kernel) (by decide)
  -- the name of the dimension reads like two references
  · exact confused_of_clauses ⟨[⟨"date.lvl0,store", 0⟩]⟩ ⟨[]⟩
      ⟨[⟨"date", 0⟩, ⟨"store", 0⟩]⟩ ⟨[]⟩
      (by decide +kernel) (by decide +kernel) (by decide +kernel)
      (by rw [clauses, GammaClause.build, Cube.collect_of_sorted (by decide)]; decide +kernel)
      (by decide +kernel) (by decide)
  -- the name of the dimension reads like another one and the beginning of a literal
  · exact confused_of_clauses ⟨[]⟩ ⟨[⟨⟨"date.lvl0='store", 0⟩, "b"⟩]⟩
      ⟨[]⟩ ⟨[⟨⟨"date", 0⟩, "store.lvl0='b"⟩]⟩
      (by decide +kernel) (by decide +kernel) (by decide +kernel) (by decide +kernel)
      (by decide +kernel) (by decide)
  -- each of the long names reads like a name and the key of the next line
  · exact confused_of_clauses ⟨[⟨"date.lvl0\nSigma:x", 0⟩]⟩ ⟨[⟨⟨"store", 0⟩, "b"⟩]⟩
      ⟨[⟨"date", 0⟩]⟩ ⟨[⟨⟨"x.lvl0\nSigma:store", 0⟩, "b"⟩]⟩
      (by decide +kernel) (by decide +kernel) (by decide +kernel) (by decide +kernel)
      (by decide +kernel) (by decide)
  -- the literal and the measurement each go on like the lines of the other text
  · exact confused_of_clauses ⟨[]⟩ ⟨[⟨⟨"date", 0⟩, "v\nAggrFunc:b\nMeasure:m\nAggrFunc:a\n" ++
        "Measure:m\nGamma:\nSigma:date.lvl0='v\nGamma:\nSigma:store.lvl0='w"⟩]⟩
      ⟨[]⟩ ⟨[⟨⟨"store", 0⟩, "w"⟩]⟩
      (by decide +kernel) (by decide +kernel) (by decide +kernel) (by decide +kernel)
      (by decide +kernel) (by decide)

end Settings

end CubeAssessment
