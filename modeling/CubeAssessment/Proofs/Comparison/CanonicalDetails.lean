import CubeAssessment.Comparison.Benchmark
import CubeAssessment.Proofs.Numeric.ReadBack
import CubeAssessment.Proofs.Text.Blank

/-! # Canonical details of a benchmark

Details are read with their numbers in any spelling, the kind in any case and under its short name,
the level within white space; a specification is written in one way. Both are tied to one relation,
which parameters spell which specification (`BenchmarkSpec.parse_eq_ok_iff`). What is read is valid
(`BenchmarkSpec.Spells.valid`), and the parameters of a valid specification spell it
(`BenchmarkSpec.Valid.spells_parameters`). So the canonical details of what was read are read as the
same specification (`BenchmarkSpec.ofDetails_canonical`). -/

namespace CubeAssessment

/-- **A kind is read from its name.** -/
theorem BenchmarkKind.parse_name (kind : BenchmarkKind) :
    BenchmarkKind.parse kind.name = some kind := by
  cases kind <;> rfl

namespace BenchmarkSpec

variable {kind : String} {parameters fields : List String} {s : BenchmarkSpec}

/-! ## What parameters spell -/

/-- **Parameters spell a specification**: its number of periods, its level within white space and
its member as given, or its value. -/
def Spells : List String → BenchmarkSpec → Prop
  | [periods], pastPeriods n => readPeriods (Text.trim periods) = some n
  | [level, member], sibling level' member' =>
      Text.trim level ≠ "" ∧ Text.trim level = level' ∧ member = member'
  | [value], constant x => Literal.readFinite (Text.trim value) = some x
  | _, _ => False

/-- **Details are accepted exactly when they name a kind and spell a specification of it.** -/
theorem parse_eq_ok_iff : parse kind parameters = .ok s ↔
    BenchmarkKind.parse kind = some s.kind ∧ Spells parameters s := by
  -- the kind fixes which parameters are looked at; another number of them spells nothing
  unfold parse
  cases BenchmarkKind.parse kind with
  | none => exact ⟨nofun, fun h => nomatch h.1⟩
  | some k =>
    cases k with
    | pastPeriods =>
      match parameters with
      | [periods] =>
        cases hread : readPeriods (Text.trim periods) <;> cases s <;>
          simp [Spells, BenchmarkSpec.kind, hread]
      | [] | _ :: _ :: _ => cases s <;> simp [Spells, BenchmarkSpec.kind]
    | sibling =>
      match parameters with
      | [level, member] =>
        by_cases hlevel : Text.trim level = "" <;> cases s <;>
          simp [Spells, BenchmarkSpec.kind, hlevel]
      | [] | [_] | _ :: _ :: _ :: _ => cases s <;> simp [Spells, BenchmarkSpec.kind]
    | constant =>
      match parameters with
      | [value] =>
        cases hread : Literal.readFinite (Text.trim value) <;> cases s <;>
          simp [Spells, BenchmarkSpec.kind, hread]
      | [] | _ :: _ :: _ => cases s <;> simp [Spells, BenchmarkSpec.kind]

/-- **A specification that can be asked for**: a number of periods within the range, a level without
white space around it, a value that is a real number. -/
def Valid : BenchmarkSpec → Prop
  | pastPeriods n => 1 ≤ n ∧ n ≤ maxPeriods
  | sibling level _ => Text.trim level = level ∧ level ≠ ""
  | constant x => x.isFinite = true

/-- A number of periods is read when it is a natural number within the range. -/
theorem readPeriods_eq_some_iff {text : String} {n : ℕ} : readPeriods text = some n ↔
    Literal.readNatural text = some n ∧ 1 ≤ n ∧ n ≤ maxPeriods := by
  rw [readPeriods, Option.filter_eq_some_iff, decide_eq_true_iff]

/-- **What parameters spell is valid.** -/
theorem Spells.valid (h : Spells parameters s) : s.Valid := by
  match parameters, s, h with
  | [_], .pastPeriods _, h => exact (readPeriods_eq_some_iff.mp h).2
  | [level, _], .sibling _ _, ⟨hne, hlevel, _⟩ => exact hlevel ▸ ⟨Text.trim_trim level, hne⟩
  | [_], .constant _, h => exact (Option.filter_eq_some_iff.mp h).2

/-- The text of a natural number has no white space around it. -/
theorem trim_toString (n : ℕ) : Text.trim (toString n) = toString n :=
  Text.trim_eq_self fun c hc => Binary64.isBlank_of_isDigit
    (Literal.areDigits_toDigits n c (by rwa [← Literal.toList_toString]))

/-- **The parameters of a valid specification spell it.** -/
theorem Valid.spells_parameters (h : s.Valid) : Spells s.parameters s := by
  match s, h with
  | .pastPeriods n, hrange =>
    have hread := readPeriods_eq_some_iff.mpr ⟨Literal.readNatural_toString n, hrange⟩
    rw [← trim_toString] at hread
    exact hread
  | .sibling _ _, ⟨hlevel, hne⟩ => exact ⟨hlevel.symm ▸ hne, hlevel, rfl⟩
  | .constant x, hfinite =>
    have htrim : Text.trim x.plainText = x.plainText :=
      Text.trim_eq_self fun c hc => Binary64.isBlank_of_mem_plainText hfinite hc
    have hread := Literal.readFinite_plainText hfinite
    rw [← htrim] at hread
    exact hread

/-! ## Canonical details -/

/-- **A valid specification is read from its canonical details.** -/
theorem Valid.ofDetails_details (h : s.Valid) : ofDetails s.details = .ok s := by
  rw [details, ofDetails]
  exact parse_eq_ok_iff.mpr ⟨BenchmarkKind.parse_name s.kind, h.spells_parameters⟩

/-- **What is read from details is valid.** -/
theorem valid_of_ofDetails (h : ofDetails fields = .ok s) : s.Valid := by
  cases fields with
  | nil => cases h
  | cons kind parameters =>
    rw [ofDetails] at h
    exact (parse_eq_ok_iff.mp h).2.valid

/-- The canonical form of details that are accepted. -/
def canonicalize (fields : List String) : Except BenchmarkError (List String) :=
  (ofDetails fields).map details

/-- Details that are read as a specification have its canonical form. -/
theorem canonicalize_of_ofDetails (h : ofDetails fields = .ok s) :
    canonicalize fields = .ok s.details := by
  rw [canonicalize, h, Except.map]

/-- **A specification is recovered from its own kind and parameters**, the sign of a zero included.
So these are a canonical form of the details: writing them in it once more changes nothing, and
accepted details with the same kind and parameters denote the same specification. -/
theorem ofDetails_canonical (h : ofDetails fields = .ok s) :
    ofDetails (s.kind.name :: s.parameters) = .ok s ∧
    canonicalize fields = .ok (s.kind.name :: s.parameters) ∧
    canonicalize (s.kind.name :: s.parameters) = .ok (s.kind.name :: s.parameters) ∧
    ∀ fields' s', ofDetails fields' = .ok s' → s'.kind.name = s.kind.name →
      s'.parameters = s.parameters → s' = s := by
  have hread : ofDetails s.details = .ok s := (valid_of_ofDetails h).ofDetails_details
  refine ⟨hread, canonicalize_of_ofDetails h, canonicalize_of_ofDetails hread, ?_⟩
  intro fields' s' h' hkind hparameters
  have hread' := (valid_of_ofDetails h').ofDetails_details
  rw [details, hkind, hparameters] at hread'
  exact Except.ok.inj (hread'.symm.trans hread)

/-- A negative zero stays one in its canonical spelling, and every benchmark with this parameter is
it; a level with a comma and brackets and a member within white space are recovered as well. -/
theorem ofDetails_canonical_of_spellings :
    ofDetails ["constant", "-0"] = .ok (.constant (.signed true .zero)) ∧
    (∀ fields' s', ofDetails fields' = .ok s' → s'.kind.name = "constant" →
      s'.parameters = ["-0"] → s' = .constant (.signed true .zero)) ∧
    ofDetails ["sibling", "city, (town)", " Turin "] = .ok (.sibling "city, (town)" " Turin ") ∧
    ofDetails ["past-n-periods", "7"] = .ok (.pastPeriods 7) := by
  obtain ⟨hzero, -, -, hsame⟩ := ofDetails_canonical
    (rfl : ofDetails [" CONSTANT", "-.000 "] = .ok (.constant (.signed true .zero)))
  obtain ⟨hlevel, -⟩ := ofDetails_canonical
    (rfl : ofDetails ["Sibling", "\tcity, (town) ", " Turin "] =
      .ok (.sibling "city, (town)" " Turin "))
  obtain ⟨hpast, -⟩ := ofDetails_canonical
    (rfl : ofDetails ["PAST", " +007"] = .ok (.pastPeriods 7))
  exact ⟨hzero, hsame, hlevel, hpast⟩

end BenchmarkSpec

end CubeAssessment
