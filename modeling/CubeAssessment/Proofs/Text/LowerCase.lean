import CubeAssessment.Text.LowerCase
import Mathlib.Data.Char
import Mathlib.Data.String.Basic

/-! # Lower-casing twice

Every character of a lower-cased text is its own lower case (`isSmall_of_mem_lowerFrom`), so
lower-casing again changes nothing (`lower_lower`), whatever the text. The one fact about the case
tables behind this is that no run lists a lower case of another (`misses_lowerRuns`). -/

namespace CubeAssessment.Text

/-! ## The case tables -/

namespace CaseRun

/-- Whether `other` lists no lower case of `run`: the lower cases stand below it, or above it, or
have the other parity where every second code point is listed. -/
def misses (run other : CaseRun) : Bool :=
  (run.image + (run.last - run.first)).blt other.first || other.last.blt run.image ||
    (other.stride.beq 2 && (run.stride.beq 2 || run.first.beq run.last) &&
      ((run.image + other.first) % 2).beq 1)

/-- A run that misses another has no lower case there. -/
theorem not_covers_of_misses {run other : CaseRun} {code : Nat} (h : run.misses other = true)
    (hcode : run.covers code = true) : ¬ other.covers (run.lower code) = true := by
  intro hcovers
  change other.covers (run.image + (code - run.first)) = true at hcovers
  simp only [misses, Bool.or_eq_true, Bool.and_eq_true, Nat.blt_eq, Nat.beq_eq] at h
  simp only [covers, Bool.and_eq_true, decide_eq_true_eq, beq_iff_eq] at hcode hcovers
  obtain ⟨⟨hfirst, hlast⟩, hstep⟩ := hcode
  obtain ⟨⟨hfirst', hlast'⟩, hstep'⟩ := hcovers
  rcases h with (h | h) | ⟨⟨hother, hrun | hrun⟩, hparity⟩
  · omega
  · omega
  · rw [hrun] at hstep
    rw [hother] at hstep'
    omega
  · rw [hother] at hstep'
    omega

end CaseRun

/-- **No run lists a lower case.** -/
theorem misses_lowerRuns : (lowerRuns.all fun run => lowerRuns.all run.misses) = true := by
  decide +kernel

/-- Lower cases are code points of characters, and none is that of `İ`. -/
theorem image_lowerRuns : ∀ run ∈ lowerRuns,
    (run.image + (run.last - run.first) < 0xD800 ∨
      0xDFFF < run.image ∧ run.image + (run.last - run.first) < 0x110000) ∧
    (run.image + (run.last - run.first) < 0x130 ∨ 0x130 < run.image) := by
  decide +kernel

/-- A code point has no other lower case when no run lists it. -/
theorem lowerCode_eq_self {code : Nat} (h : ∀ run ∈ lowerRuns, ¬ run.covers code = true) :
    lowerCode code = code := by
  have hnone : lowerRuns.find? (·.covers code) = none := List.find?_eq_none.mpr h
  simp only [lowerCode, hnone]

/-- A code point is its own lower case, or its lower case is that in some run. -/
theorem lowerCode_cases (code : Nat) : lowerCode code = code ∨
    ∃ run ∈ lowerRuns, run.covers code = true ∧ lowerCode code = run.lower code := by
  cases hrun : lowerRuns.find? (·.covers code) with
  | none => exact Or.inl (lowerCode_eq_self (List.find?_eq_none.mp hrun))
  | some run =>
      have hcovers : run.covers code = true := by simpa using List.find?_some hrun
      exact Or.inr ⟨run, List.mem_of_find?_eq_some hrun, hcovers, by simp only [lowerCode, hrun]⟩

/-- **The lower case of a lower case is itself.** -/
theorem lowerCode_lowerCode (code : Nat) : lowerCode (lowerCode code) = lowerCode code := by
  rcases lowerCode_cases code with h | ⟨run, hrun, hcovers, h⟩
  · rw [h, h]
  · rw [h]
    refine lowerCode_eq_self fun other hother => CaseRun.not_covers_of_misses ?_ hcovers
    exact List.all_eq_true.mp (List.all_eq_true.mp misses_lowerRuns run hrun) other hother

/-- The lower case of a character is a character other than `İ`, unless it is `İ`. -/
theorem toNat_ofNat_lowerCode {c : Char} (h : c.toNat ≠ 0x130) :
    (Char.ofNat (lowerCode c.toNat)).toNat = lowerCode c.toNat ∧ lowerCode c.toNat ≠ 0x130 := by
  rcases lowerCode_cases c.toNat with hself | ⟨run, hrun, hcovers, hlower⟩
  · rw [hself, Char.ofNat_toNat]
    exact ⟨rfl, h⟩
  · obtain ⟨hscalar, hdotted⟩ := image_lowerRuns run hrun
    simp only [CaseRun.covers, Bool.and_eq_true, decide_eq_true_eq] at hcovers
    rw [hlower, CaseRun.lower]
    have hvalid : (run.image + (c.toNat - run.first)).isValidChar := by
      rcases hscalar with hlow | ⟨hhigh, hbound⟩
      · exact Or.inl (by omega)
      · exact Or.inr ⟨by omega, by omega⟩
    refine ⟨?_, by omega⟩
    rw [Char.ofNat, dif_pos hvalid]
    rfl

/-! ## Characters -/

/-- A character that lower-casing keeps, wherever it stands. -/
def IsSmall (c : Char) : Prop := c ≠ capitalSigma ∧ lowerChar c = [c]

instance (c : Char) : Decidable (IsSmall c) :=
  inferInstanceAs (Decidable (c ≠ capitalSigma ∧ lowerChar c = [c]))

/-- A character other than `İ` without another lower case is kept. -/
theorem isSmall_of_lowerCode_eq {c : Char} (hdotted : c.toNat ≠ 0x130)
    (h : lowerCode c.toNat = c.toNat) : IsSmall c := by
  constructor
  · intro hsigma
    have hlower : lowerCode capitalSigma.toNat = smallSigma.toNat := by decide
    rw [← hsigma, h, hsigma] at hlower
    exact absurd hlower (by decide)
  · rw [lowerChar, if_neg hdotted, h, Char.ofNat_toNat]

/-- **The lower case of a character is kept.** -/
theorem isSmall_of_mem_lowerChar {c d : Char} (h : d ∈ lowerChar c) : IsSmall d := by
  by_cases hdotted : c.toNat = 0x130
  · rw [lowerChar, if_pos hdotted, List.mem_cons, List.mem_singleton] at h
    rcases h with rfl | rfl
    · decide
    · decide
  · rw [lowerChar, if_neg hdotted, List.mem_singleton] at h
    obtain ⟨hcode, hdotted'⟩ := toNat_ofNat_lowerCode hdotted
    rw [← h] at hcode
    refine isSmall_of_lowerCode_eq (by rwa [hcode]) ?_
    rw [hcode, lowerCode_lowerCode]

/-- Both small sigmas are kept. -/
theorem isSmall_lowerSigma (before after : List Char) : IsSmall (lowerSigma before after) := by
  rw [lowerSigma]
  split
  · decide
  · decide

/-! ## Whole texts -/

/-- **Lower-casing gives characters that it keeps.** -/
theorem isSmall_of_mem_lowerFrom {before cs : List Char} {d : Char}
    (h : d ∈ lowerFrom before cs) : IsSmall d := by
  induction cs generalizing before with
  | nil => cases h
  | cons c after ih =>
      rw [lowerFrom, List.mem_append] at h
      rcases h with h | h
      · split at h
        · rw [List.mem_singleton] at h
          rw [h]
          exact isSmall_lowerSigma before after
        · exact isSmall_of_mem_lowerChar h
      · exact ih h

/-- Characters that lower-casing keeps make up a text that it keeps. -/
theorem lowerFrom_eq_self {before cs : List Char} (h : ∀ c ∈ cs, IsSmall c) :
    lowerFrom before cs = cs := by
  induction cs generalizing before with
  | nil => rfl
  | cons c after ih =>
      obtain ⟨⟨hsigma, hlower⟩, hafter⟩ := List.forall_mem_cons.mp h
      rw [lowerFrom, if_neg hsigma, hlower, ih hafter, List.singleton_append]

/-- The characters of a lower-cased text are kept. -/
theorem isSmall_of_mem_lower {s : String} {c : Char} (h : c ∈ (lower s).toList) : IsSmall c := by
  rw [toList_lower] at h
  exact isSmall_of_mem_lowerFrom h

/-- **Lower-casing a lower-cased text changes nothing.** -/
@[simp] theorem lower_lower (s : String) : lower (lower s) = lower s := by
  refine String.toList_inj.mp ?_
  rw [toList_lower, lowerFrom_eq_self fun c hc => isSmall_of_mem_lower hc]

end CubeAssessment.Text
