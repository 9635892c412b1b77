import CubeAssessment.Text.Blank
import Mathlib.Data.List.DropRight
import Mathlib.Data.List.TakeWhile
import Mathlib.Data.String.Basic

/-! # Blank texts

Trimming leaves nothing of a text exactly when it is white space throughout, leaves a text without
white space as it is, and what it leaves is not trimmed further. -/

namespace CubeAssessment.Text

/-- A text of white space only. -/
def Blank (s : String) : Prop := ∀ c ∈ s.toList, isBlank c = true

instance (s : String) : Decidable (Blank s) :=
  decidable_of_iff (s.toList.all isBlank = true) List.all_eq_true

/-- Trimming leaves nothing of characters that are all white space, and of no others. -/
theorem trimChars_eq_nil_iff {cs : List Char} :
    trimChars cs = [] ↔ ∀ c ∈ cs, isBlank c = true := by
  rw [trimChars, List.reverse_eq_nil_iff, List.dropWhile_eq_nil_iff]
  constructor
  · intro h
    -- what is left after the white space in front would begin with another character
    rw [← List.dropWhile_eq_nil_iff]
    cases hrest : cs.dropWhile isBlank with
    | nil => rfl
    | cons c rest =>
        have hblank : isBlank c = true := h c (by rw [hrest]; simp)
        have hother : ¬ isBlank c = true := by
          have hhead := List.head_dropWhile_not isBlank (l := cs) (by rw [hrest]; simp)
          simpa [hrest] using hhead
        exact absurd hblank hother
  · intro h c hc
    exact h c ((List.dropWhile_sublist isBlank).subset (List.mem_reverse.mp hc))

/-- White space is all that trimming takes away in front. -/
theorem dropWhile_isBlank_eq_self {cs : List Char} (h : ∀ c ∈ cs, isBlank c = false) :
    cs.dropWhile isBlank = cs := by
  cases cs with
  | nil => rfl
  | cons c cs =>
      exact List.dropWhile_cons_of_neg (Bool.eq_false_iff.mp (h c List.mem_cons_self))

/-- **A text without white space is its own trimmed form.** -/
theorem trim_eq_self {s : String} (h : ∀ c ∈ s.toList, isBlank c = false) : trim s = s := by
  rw [trim, trimChars, dropWhile_isBlank_eq_self h, dropWhile_isBlank_eq_self
    (fun c hc => h c (List.mem_reverse.mp hc)), List.reverse_reverse, String.ofList_toList]

/-- What is left of characters begins and ends with no white space. -/
theorem trimChars_trimChars (cs : List Char) : trimChars (trimChars cs) = trimChars cs := by
  have hinitial : trimChars cs <+: cs.dropWhile isBlank := List.rdropWhile_prefix _ _
  have hfront : (trimChars cs).dropWhile isBlank = trimChars cs := by
    refine List.dropWhile_eq_self_iff.mpr fun hpos => ?_
    rw [hinitial.getElem hpos]
    exact List.dropWhile_get_zero_not _ _ _
  rw [trimChars.eq_1 (trimChars cs), hfront]
  exact List.rdropWhile_idempotent _ _

/-- **Trimming once is enough.** -/
theorem trim_trim (s : String) : trim (trim s) = trim s := by
  rw [trim, toList_trim, trimChars_trimChars, trim]

/-- **Trimming leaves nothing of a blank text, and only of a blank text.** -/
theorem trim_eq_empty_iff {s : String} : trim s = "" ↔ Blank s := by
  rw [← String.toList_inj, toList_trim, String.toList_empty, trimChars_eq_nil_iff, Blank]

end CubeAssessment.Text
