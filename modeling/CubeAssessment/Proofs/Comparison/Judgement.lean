import CubeAssessment.Proofs.Comparison.CanonicalDetails
import CubeAssessment.Proofs.Numeric.Grammar

/-! # What becomes of benchmark details

Details are judged by their grammar: the first names a kind, the kind fixes how many parameters
follow, and these are written in the form the kind takes (`BenchmarkSpec.Written`). The judgement
(`BenchmarkSpec.Judged`) says for every list of details either what they stand for or why they are
refused, and checking details gives exactly that (`BenchmarkSpec.ofDetails_eq_iff_judged`). -/

namespace CubeAssessment

namespace BenchmarkKind

/-! ## Names of kinds -/

/-- The words that name a kind. -/
def words : BenchmarkKind → List String
  | pastPeriods => ["past", "past-n-periods"]
  | sibling => ["sibling"]
  | constant => ["constant"]

variable {kind : BenchmarkKind} {text : String}

/-- **A kind is read from its words**, whatever their case and the white space around them. -/
theorem parse_eq_some_iff :
    parse text = some kind ↔ Text.lower (Text.trim text) ∈ kind.words := by
  unfold parse
  dsimp only
  generalize Text.lower (Text.trim text) = name
  split
  · next hname => rcases hname with rfl | rfl <;> cases kind <;> simp [words]
  · next hpast =>
    obtain ⟨hshort, hlong⟩ := not_or.mp hpast
    split
    · next hname =>
      subst hname
      cases kind <;> simp [words]
    · next hsibling =>
      split
      · next hname =>
        subst hname
        cases kind <;> simp [words]
      · next hconstant => cases kind <;> simp [words, hshort, hlong, hsibling, hconstant]

/-- No kind is read from other texts. -/
theorem parse_eq_none_iff :
    parse text = none ↔ ∀ kind : BenchmarkKind, Text.lower (Text.trim text) ∉ kind.words := by
  simp only [Option.eq_none_iff_forall_ne_some, ne_eq, parse_eq_some_iff]

/-- The words are matched by their variants only. -/
theorem isPlainWord_of_mem_words {word : String} (h : word ∈ kind.words) :
    Text.IsPlainWord word := by
  have hall : ∀ word ∈ kind.words, Text.IsPlainWord word := by
    cases kind with
    | pastPeriods => decide
    | sibling => decide
    | constant => decide
  exact hall word h

end BenchmarkKind

namespace BenchmarkSpec

variable {text : String} {parameters : List String} {kind : BenchmarkKind} {s : BenchmarkSpec}

/-! ## Parameters -/

/-- **Parameters are written in the form of a kind** and stand for a specification of it. -/
inductive Written : List String → BenchmarkSpec → Prop where
  /-- A number of periods: digits, with a plus or without, for a number in the range. -/
  | pastPeriods {periods : String} {n : Nat} :
      Literal.SpellsNatural (Text.trim periods).toList n → 1 ≤ n → n ≤ 2 ^ 32 - 1 →
      Written [periods] (.pastPeriods n)
  /-- A level, of which the white space around it does not count, and a member as given. -/
  | sibling {level member : String} :
      ¬ Text.Blank level → Written [level, member] (.sibling (Text.trim level) member)
  /-- A number literal for a real number. -/
  | constant {value : String} {x : Binary64} :
      Literal.Spells (Text.trim value).toList x → x.isFinite = true →
      Written [value] (.constant x)

/-- **Parameters spell a specification when they are written in the form of its kind.** -/
theorem spells_iff_written : Spells parameters s ↔ Written parameters s := by
  constructor
  · intro h
    match parameters, s, h with
    | [periods], .pastPeriods n, h =>
      obtain ⟨hread, hone, hmax⟩ := readPeriods_eq_some_iff.mp h
      exact .pastPeriods (Literal.readNatural_eq_some_iff.mp hread) hone hmax
    | [level, member], .sibling _ _, ⟨hne, hlevel, hmember⟩ =>
      subst hlevel hmember
      exact .sibling fun hblank => hne (Text.trim_eq_empty_iff.mpr hblank)
    | [value], .constant x, h =>
      obtain ⟨hspells, hfinite⟩ := Literal.readFinite_eq_some_iff.mp h
      exact .constant hspells hfinite
  · intro h
    cases h with
    | pastPeriods hspells hone hmax =>
      exact readPeriods_eq_some_iff.mpr ⟨Literal.readNatural_eq_some_iff.mpr hspells, hone, hmax⟩
    | sibling hlevel => exact ⟨fun hempty => hlevel (Text.trim_eq_empty_iff.mp hempty), rfl, rfl⟩
    | constant hspells hfinite => exact Literal.readFinite_eq_some_iff.mpr ⟨hspells, hfinite⟩

/-! ## Refusals -/

/-- A text that names no kind is refused before anything else. -/
theorem parse_of_unknown (hkind : BenchmarkKind.parse text = none) :
    parse text parameters = .error (.unknownKind text) := by
  unfold parse
  rw [hkind]

/-- **A wrong number of parameters is refused before any of them is looked at.** -/
theorem parse_of_length_ne (hkind : BenchmarkKind.parse text = some kind)
    (hlength : parameters.length ≠ kind.arity) :
    parse text parameters = .error (.arity kind parameters.length) := by
  unfold parse
  rw [hkind]
  cases kind with
  | pastPeriods =>
    match parameters, hlength with
    | [], _ => rfl
    | [_], hlength => exact absurd rfl hlength
    | _ :: _ :: _, _ => rfl
  | sibling =>
    match parameters, hlength with
    | [], _ => rfl
    | [_], _ => rfl
    | [_, _], hlength => exact absurd rfl hlength
    | _ :: _ :: _ :: _, _ => rfl
  | constant =>
    match parameters, hlength with
    | [], _ => rfl
    | [_], hlength => exact absurd rfl hlength
    | _ :: _ :: _, _ => rfl

/-- **Parameters that are not written in the form of the kind are refused for the first of them**,
quoted as given. -/
theorem parse_of_not_spells {first : String} {others : List String}
    (hkind : BenchmarkKind.parse text = some kind) (hlength : (first :: others).length = kind.arity)
    (hform : ∀ s : BenchmarkSpec, s.kind = kind → ¬ Spells (first :: others) s) :
    parse text (first :: others) = .error (.invalidParameter kind first) := by
  unfold parse
  rw [hkind]
  cases kind with
  | pastPeriods =>
    match others, hlength with
    | [], _ =>
      cases hread : readPeriods (Text.trim first) with
      | none => simp only [hread]
      | some n => exact absurd hread (hform (.pastPeriods n) rfl)
  | sibling =>
    match others, hlength with
    | [member], _ =>
      -- the member is taken as it is, so it is the level that is wrong
      have hlevel : Text.trim first = "" := by
        by_contra hne
        exact hform (.sibling (Text.trim first) member) rfl ⟨hne, rfl, rfl⟩
      exact if_pos hlevel
  | constant =>
    match others, hlength with
    | [], _ =>
      cases hread : Literal.readFinite (Text.trim first) with
      | none => simp only [hread]
      | some x => exact absurd hread (hform (.constant x) rfl)

/-! ## The judgement -/

/-- **What becomes of details**: the specification they stand for, or the first thing that is wrong
with them. -/
inductive Judged : List String → Except BenchmarkError BenchmarkSpec → Prop where
  /-- There are none. -/
  | missing : Judged [] (.error .missing)
  /-- The first names no kind. -/
  | unknownKind {text : String} {parameters : List String} :
      (∀ kind : BenchmarkKind, Text.lower (Text.trim text) ∉ kind.words) →
      Judged (text :: parameters) (.error (.unknownKind text))
  /-- The kind takes another number of parameters. -/
  | arity {text : String} {parameters : List String} {kind : BenchmarkKind} :
      Text.lower (Text.trim text) ∈ kind.words → parameters.length ≠ kind.arity →
      Judged (text :: parameters) (.error (.arity kind parameters.length))
  /-- The parameters are not written in the form of the kind; the first is blamed. -/
  | invalidParameter {text first : String} {others : List String} {kind : BenchmarkKind} :
      Text.lower (Text.trim text) ∈ kind.words → (first :: others).length = kind.arity →
      (∀ s : BenchmarkSpec, s.kind = kind → ¬ Written (first :: others) s) →
      Judged (text :: first :: others) (.error (.invalidParameter kind first))
  /-- The parameters are written in the form of the kind. -/
  | accepted {text : String} {parameters : List String} {s : BenchmarkSpec} :
      Text.lower (Text.trim text) ∈ s.kind.words → Written parameters s →
      Judged (text :: parameters) (.ok s)

/-- A judgement is what checking the details gives. -/
theorem Judged.ofDetails_eq {fields : List String} {r : Except BenchmarkError BenchmarkSpec}
    (h : Judged fields r) : ofDetails fields = r := by
  cases h with
  | missing => rfl
  | unknownKind hkind =>
    rw [ofDetails]
    exact parse_of_unknown (BenchmarkKind.parse_eq_none_iff.mpr hkind)
  | arity hkind hlength =>
    rw [ofDetails]
    exact parse_of_length_ne (BenchmarkKind.parse_eq_some_iff.mpr hkind) hlength
  | invalidParameter hkind hlength hform =>
    rw [ofDetails]
    refine parse_of_not_spells (BenchmarkKind.parse_eq_some_iff.mpr hkind) hlength ?_
    intro s hs hspells
    exact hform s hs (spells_iff_written.mp hspells)
  | accepted hkind hwritten =>
    rw [ofDetails]
    exact parse_eq_ok_iff.mpr
      ⟨BenchmarkKind.parse_eq_some_iff.mpr hkind, spells_iff_written.mpr hwritten⟩

/-- **All details are judged.** -/
theorem exists_judged (fields : List String) : ∃ r, Judged fields r := by
  cases fields with
  | nil => exact ⟨_, .missing⟩
  | cons text parameters =>
    by_cases hnamed : ∃ kind : BenchmarkKind, Text.lower (Text.trim text) ∈ kind.words
    · obtain ⟨kind, hkind⟩ := hnamed
      by_cases hlength : parameters.length = kind.arity
      · by_cases hform : ∃ s : BenchmarkSpec, s.kind = kind ∧ Written parameters s
        · obtain ⟨s, rfl, hwritten⟩ := hform
          exact ⟨_, .accepted hkind hwritten⟩
        · cases parameters with
          | nil =>
            -- every kind takes a parameter
            cases kind <;> cases hlength
          | cons first others =>
            refine ⟨_, .invalidParameter hkind hlength fun s hs hwritten => ?_⟩
            exact hform ⟨s, hs, hwritten⟩
      · exact ⟨_, .arity hkind hlength⟩
    · exact ⟨_, .unknownKind fun kind hkind => hnamed ⟨kind, hkind⟩⟩

/-- **Checking details gives what the grammar says**, for every list of texts; the texts that name a
kind are its words with any of their ASCII letters capital, between white space. -/
theorem ofDetails_eq_iff_judged (fields : List String) :
    (∀ r, ofDetails fields = r ↔ Judged fields r) ∧
    ∀ (kind : BenchmarkKind) (text : String), Text.lower (Text.trim text) ∈ kind.words ↔
      ∃ word ∈ kind.words, Text.IsVariant text word := by
  refine ⟨fun r => ⟨?_, Judged.ofDetails_eq⟩, fun kind text => ?_⟩
  · rintro rfl
    obtain ⟨r, hr⟩ := exists_judged fields
    rwa [hr.ofDetails_eq]
  · constructor
    · intro hmem
      exact ⟨_, hmem, (Text.lower_trim_eq_iff (BenchmarkKind.isPlainWord_of_mem_words hmem)).mp rfl⟩
    · rintro ⟨word, hmem, hvariant⟩
      rwa [(Text.lower_trim_eq_iff (BenchmarkKind.isPlainWord_of_mem_words hmem)).mpr hvariant]

example : ofDetails [" pAsT ", "+0004294967295"] = .ok (.pastPeriods 4294967295) := by decide

example : ofDetails ["past", "4294967296"] =
    .error (.invalidParameter .pastPeriods "4294967296") := by decide

end BenchmarkSpec

end CubeAssessment
