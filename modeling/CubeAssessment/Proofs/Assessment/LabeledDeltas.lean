import CubeAssessment.Proofs.Assessment.Blame
import CubeAssessment.Proofs.Labeling.Classification

/-! # Labeled deltas

An assessment applies one delta function after the other and labels each value. Nothing checks that
the values can be labeled, and yet only NaN cannot: the partition of a query that was built tiles
the whole line, infinities included, and labels every number by the interval it lies in
(`LabelPartition.classify_eq_ok_iff_labels`). So an assessment gives an entry for every delta
function that was asked for, in order, or is refused because of a value that is not a number
(`Settings.assess_of_build`). -/

namespace CubeAssessment

/-! ## Labels -/

namespace LabelPartition

variable {p : LabelPartition} {v : Binary64} {label : String}

/-- **The label of a number**: that of the one interval its value lies in. -/
def Labels (p : LabelPartition) (v : Binary64) (label : String) : Prop :=
  ∃ (k : ℕ) (i : Interval), p.intervals[k]? = some i ∧ v.toEReal ∈ i.points ∧ i.label = label ∧
    ∀ (l : ℕ) (j : Interval), p.intervals[l]? = some j → v.toEReal ∈ j.points → l = k

/-- **A partition of proper intervals that classifies** gives a number its label, and no other. -/
theorem classify_eq_ok_iff_labels (hproper : ∀ i ∈ p.intervals.toList, i.Proper)
    (h : p.Classifies) (hv : v ≠ .nan) : p.classify v = .ok label ↔ p.Labels v label := by
  have hpoints : ∀ {k : ℕ} {i : Interval}, p.intervals[k]? = some i →
      (i.contains v = true ↔ v.toEReal ∈ i.points) := fun hk =>
    Interval.contains_iff_mem_points
      (hproper _ (List.mem_of_getElem? (by rwa [Array.getElem?_toList]))) hv
  constructor
  · intro hlabel
    obtain ⟨i, hposition, hi, hok⟩ := h.contains_position v hv
    refine ⟨p.position v, i, hposition, (hpoints hposition).mp hi, ?_, fun l j hl hj => ?_⟩
    · exact Except.ok.inj (hok.symm.trans hlabel)
    · exact h.eq_position v l j hl ((hpoints hl).mpr hj)
  · rintro ⟨k, i, hk, hi, rfl, -⟩
    cases h.eq_position v k i hk ((hpoints hk).mpr hi)
    exact classify_of_getElem? hv hk

end LabelPartition

/-! ## Assessments -/

namespace Query

variable {q : Query} {current benchmark : Binary64}

/-- An assessment by one function is its value with the label of that value. -/
theorem assessOne_eq_ok_iff {f : DeltaFunction} {a : Assessment} :
    q.assessOne current benchmark f = .ok a ↔
      a.function = f ∧ a.delta = a.function.apply current benchmark ∧
        q.label a.delta = .ok a.label := by
  rw [assessOne, map_eq_ok_iff]
  constructor
  · rintro ⟨label, hlabel, rfl⟩
    exact ⟨rfl, rfl, hlabel⟩
  · rintro ⟨rfl, hdelta, hlabel⟩
    exact ⟨a.label, hdelta ▸ hlabel, by rw [← hdelta]⟩

/-- **An assessment is an entry for each delta function in order**: its value with the label of that
value. -/
theorem assess_eq_ok_iff {results : List Assessment} : q.assess current benchmark = .ok results ↔
    results.map Assessment.function = q.deltaFunctions ∧
      ∀ a ∈ results, a.delta = a.function.apply current benchmark ∧
        q.label a.delta = .ok a.label :=
  mapM_eq_ok_iff_map fun _ _ => assessOne_eq_ok_iff

/-- An assessment by one function fails as its value is refused. -/
theorem assessOne_eq_error_iff {f : DeltaFunction} {e : LabelingError} :
    q.assessOne current benchmark f = .error e ↔
      q.label (f.apply current benchmark) = .error e :=
  map_eq_error_iff

/-- **An assessment with a partition that classifies is refused exactly when a value is NaN**, and
then because of that. -/
theorem assess_eq_error_iff (h : q.partition.Classifies) {e : LabelingError} :
    q.assess current benchmark = .error e ↔
      (∃ f ∈ q.deltaFunctions, f.apply current benchmark = .nan) ∧ e = .outOfRange .nan := by
  have hone : ∀ {f e}, q.assessOne current benchmark f = .error e ↔
      f.apply current benchmark = .nan ∧ e = .outOfRange .nan := by
    intro f e
    rw [assessOne_eq_error_iff, label, h.classify_eq_error_iff]
    exact and_congr_right fun hnan => by rw [hnan]
  constructor
  · intro he
    obtain ⟨front, f, back, hsplit, -, hf⟩ := mapM_eq_error_iff.mp he
    obtain ⟨hnan, hcause⟩ := hone.mp hf
    exact ⟨⟨f, by simp [hsplit], hnan⟩, hcause⟩
  · rintro ⟨⟨f, hmem, hnan⟩, rfl⟩
    cases hassess : q.assess current benchmark with
    | error e =>
        obtain ⟨_, _, _, _, -, hf⟩ := mapM_eq_error_iff.mp hassess
        rw [(hone.mp hf).2]
    | ok results =>
        -- the function whose value is NaN would have an entry
        obtain ⟨a, ha⟩ := exists_mapM_eq_ok_iff.mp ⟨results, hassess⟩ f hmem
        rw [hone.mpr ⟨hnan, rfl⟩] at ha
        cases ha

end Query

namespace Settings

variable {s : Settings} {catalog : Catalog} {q : Query}

/-- A query that is built has the delta functions that were asked for and the partition of the
rules. -/
theorem functions_and_partition_of_build (h : s.build catalog = .ok q) :
    s.deltaFunctions.map DeltaFunction.parse = q.deltaFunctions.map some ∧
      LabelPartition.compile s.rules = .ok q.partition := by
  obtain ⟨target, -, found, -, measure, hmeasure, rfl⟩ := build_eq_ok_iff.mp h
  exact ((obeys_measure s target.benchmark).good measure hmeasure).2

/-- **An assessment is all or nothing and fails only on NaN.** For a query that was built, it gives
results exactly when no delta function yields NaN. These are an entry for each of its functions,
which are those asked for, in order and with repetitions, each with the value of the function and
the label of the one interval this lies in. Otherwise the assessment is refused, with NaN as the
value that is out of range. -/
theorem assess_of_build (h : s.build catalog = .ok q) (current benchmark : Binary64) :
    ((∃ results, q.assess current benchmark = .ok results) ↔
      ∀ f ∈ q.deltaFunctions, f.apply current benchmark ≠ .nan) ∧
    (∀ results, q.assess current benchmark = .ok results →
      results.map Assessment.function = q.deltaFunctions ∧
      results.map (fun a => some a.function) = s.deltaFunctions.map DeltaFunction.parse ∧
      ∀ a ∈ results, a.delta = a.function.apply current benchmark ∧
        q.partition.Labels a.delta a.label) ∧
    ∀ e, q.assess current benchmark = .error e ↔
      (∃ f ∈ q.deltaFunctions, f.apply current benchmark = .nan) ∧ e = .outOfRange .nan := by
  obtain ⟨hfunctions, hcompile⟩ := functions_and_partition_of_build h
  have hproper := LabelPartition.proper_of_compile hcompile
  obtain ⟨-, -, -, htiling⟩ := LabelPartition.exists_tiling_of_compile hcompile
  have hclassifies := LabelPartition.classifies_of_tiling hproper htiling
  have herror : ∀ e, q.assess current benchmark = .error e ↔
      (∃ f ∈ q.deltaFunctions, f.apply current benchmark = .nan) ∧ e = .outOfRange .nan :=
    fun _ => Query.assess_eq_error_iff hclassifies
  have hok : (∃ results, q.assess current benchmark = .ok results) ↔
      ∀ f ∈ q.deltaFunctions, f.apply current benchmark ≠ .nan := by
    rw [exists_eq_ok_iff]
    simp only [ne_eq, herror, not_and, forall_exists_index, and_imp]
    constructor
    · exact fun hnever f hf hnan => hnever _ f hf hnan rfl
    · exact fun hnumbers _ f hf hnan => absurd hnan (hnumbers f hf)
  refine ⟨hok, fun results hresults => ?_, herror⟩
  obtain ⟨hentries, hlabeled⟩ := Query.assess_eq_ok_iff.mp hresults
  refine ⟨hentries, ?_, fun a ha => ?_⟩
  · rw [hfunctions, ← hentries, List.map_map]
    rfl
  · obtain ⟨hdelta, hlabel⟩ := hlabeled a ha
    have hmem : a.function ∈ q.deltaFunctions := hentries ▸ List.mem_map_of_mem ha
    have hnan : a.delta ≠ .nan := hdelta ▸ hok.mp ⟨results, hresults⟩ _ hmem
    exact ⟨hdelta, (LabelPartition.classify_eq_ok_iff_labels hproper hclassifies hnan).mp hlabel⟩

/-- Settings that ask for one function twice and for labels above zero and up to it. -/
def aroundZero : Settings :=
  { initial with
    targetCube := some "Sales"
    aggregation := some "sum"
    measurement := some "amount"
    benchmark := some (.typed (.constant .zero))
    deltaFunctions := ["ratio", " Diff", "ratio"]
    rules := [⟨"(", "0", "inf", "]", "above"⟩, ⟨"[", "-inf", "0", "]", "up to"⟩] }

/-- A number divided by zero is infinite and labeled, both times; zero divided by zero leaves no
entry for the difference either. -/
theorem assess_around_zero : ∃ q, aroundZero.build (.ofList [⟨"sales", []⟩]) = .ok q ∧
    (∃ results, q.assess DeltaFunction.hundred .zero = .ok results ∧
      results.map Assessment.function = [.ratio, .difference, .ratio] ∧
      (∃ a ∈ results, a.delta = .infinity) ∧ ∀ a ∈ results, q.partition.Labels a.delta a.label) ∧
    q.assess .zero .zero = .error (.outOfRange .nan) := by
  have htarget : aroundZero.target (.ofList [⟨"sales", []⟩]) =
      .ok ⟨"sales", ⟨"sales", []⟩, "sum", "amount", .typed (.constant .zero)⟩ := by decide +kernel
  have hclauses : clauses ⟨"sales", []⟩ [] [] = .ok (⟨[]⟩, ⟨[]⟩) := by decide +kernel
  have hfunctions : aroundZero.deltaFunctions.mapM deltaFunction =
      .ok [.ratio, .difference, .ratio] := by decide +kernel
  have hcompile : ∃ p, LabelPartition.compile [⟨"(", "0", "inf", "]", "above"⟩,
      ⟨"[", "-inf", "0", "]", "up to"⟩] = .ok p := by
    rw [LabelPartition.compile_eq_insertion]
    decide +kernel
  obtain ⟨p, hp⟩ := hcompile
  have hmeasure : aroundZero.measure (.typed (.constant .zero)) =
      .ok ⟨.constant .zero, [.ratio, .difference, .ratio], p⟩ :=
    bind_eq_ok_iff.mpr ⟨_, rfl, bind_eq_ok_iff.mpr ⟨_, hfunctions,
      bind_eq_ok_iff.mpr ⟨p, mapError_eq_ok_iff.mpr hp, rfl⟩⟩⟩
  have hq := build_eq_ok_iff.mpr ⟨_, htarget, _, hclauses, _, hmeasure, rfl⟩
  obtain ⟨hok, hentries, -⟩ := assess_of_build hq DeltaFunction.hundred .zero
  obtain ⟨-, -, herror⟩ := assess_of_build hq .zero .zero
  have hnumbers : ∀ f : DeltaFunction, f.apply DeltaFunction.hundred .zero ≠ .nan := by
    intro f
    cases f <;> decide +kernel
  have hinfinite : DeltaFunction.ratio.apply DeltaFunction.hundred .zero = .infinity := by
    decide +kernel
  refine ⟨_, hq, ?_, (herror _).mpr ⟨⟨.ratio, List.mem_cons_self, rfl⟩, rfl⟩⟩
  obtain ⟨results, hresults⟩ := hok.mpr fun f _ => hnumbers f
  obtain ⟨hasked, -, hlabeled⟩ := hentries results hresults
  refine ⟨results, hresults, hasked, ?_, fun a ha => (hlabeled a ha).2⟩
  have hmem : .ratio ∈ results.map Assessment.function := hasked ▸ List.mem_cons_self
  obtain ⟨a, ha, hratio⟩ := List.mem_map.mp hmem
  exact ⟨a, ha, by rw [(hlabeled a ha).1, hratio, hinfinite]⟩

end Settings

end CubeAssessment
