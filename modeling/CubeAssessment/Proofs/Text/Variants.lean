import CubeAssessment.Proofs.Text.Blank
import CubeAssessment.Proofs.Text.LowerCase

/-! # Variants of a word

A name in ASCII letters is matched by lower-casing a trimmed text. Full Unicode lower-casing stands
before that comparison, but the only characters outside ASCII with an ASCII letter in their lower
case are the Kelvin sign, whose lower case is `k`, and `İ`, whose lower case goes on with a
combining dot (`ascii_of_mem_lowerChar`). So the texts that match a word without a `k` are the word
with any of its letters capital, between white space (`lower_trim_eq_iff`). -/

namespace CubeAssessment.Text

/-! ## Trimming -/

/-- Trimming takes white space away at the two ends. -/
theorem exists_trimChars_append (cs : List Char) : ∃ front back,
    cs = front ++ trimChars cs ++ back ∧ (∀ c ∈ front, isBlank c = true) ∧
      ∀ c ∈ back, isBlank c = true := by
  have hfront := List.takeWhile_append_dropWhile (p := isBlank) (l := cs)
  have hback := List.takeWhile_append_dropWhile (p := isBlank) (l := (cs.dropWhile isBlank).reverse)
  refine ⟨cs.takeWhile isBlank, ((cs.dropWhile isBlank).reverse.takeWhile isBlank).reverse, ?_,
    fun c hc => List.mem_takeWhile_imp hc, fun c hc => ?_⟩
  · rw [trimChars, List.append_assoc, ← List.reverse_append, hback, List.reverse_reverse, hfront]
  · exact List.mem_takeWhile_imp (List.mem_reverse.mp hc)

/-- White space in front of a text is taken away. -/
theorem dropWhile_isBlank_append {front cs : List Char} (hfront : ∀ c ∈ front, isBlank c = true)
    (hcs : ∀ c ∈ cs.head?, isBlank c = false) : (front ++ cs).dropWhile isBlank = cs := by
  rw [List.dropWhile_append_of_pos hfront]
  cases cs with
  | nil => rfl
  | cons c cs => exact List.dropWhile_cons_of_neg (Bool.eq_false_iff.mp (hcs c rfl))

/-- **Trimming leaves a text without white space exactly when nothing but white space stands around
it.** -/
theorem trimChars_eq_iff {cs core : List Char} (hcore : ∀ c ∈ core, isBlank c = false) :
    trimChars cs = core ↔ ∃ front back, cs = front ++ core ++ back ∧
      (∀ c ∈ front, isBlank c = true) ∧ ∀ c ∈ back, isBlank c = true := by
  constructor
  · rintro rfl
    exact exists_trimChars_append cs
  · rintro ⟨front, back, rfl, hfront, hback⟩
    cases core with
    | nil =>
      rw [List.append_nil, trimChars_eq_nil_iff]
      intro c hc
      exact (List.mem_append.mp hc).elim (hfront c) (hback c)
    | cons d core =>
      have hhead : ∀ c ∈ (d :: core ++ back).head?, isBlank c = false := by
        intro c hc
        cases hc
        exact hcore d List.mem_cons_self
      have hlast : ∀ c ∈ (d :: core).reverse.head?, isBlank c = false := fun c hc =>
        hcore c (List.mem_reverse.mp (List.mem_of_mem_head? hc))
      rw [trimChars, List.append_assoc, dropWhile_isBlank_append hfront hhead, List.reverse_append,
        dropWhile_isBlank_append (fun c hc => hback c (List.mem_reverse.mp hc)) hlast,
        List.reverse_reverse]

/-! ## Lower-casing and ASCII -/

/-- A character of ASCII. -/
def IsAscii (c : Char) : Prop := c.toNat < 0x80

instance (c : Char) : Decidable (IsAscii c) := inferInstanceAs (Decidable (c.toNat < 0x80))

/-- Lower-casing in ASCII turns the capital letters small. -/
theorem lowerChar_of_isAscii {c : Char} (h : IsAscii c) : lowerChar c = [c.toLower] := by
  have hall : ∀ code < 0x80, lowerChar (Char.ofNat code) = [(Char.ofNat code).toLower] := by
    decide +kernel
  have hc := hall c.toNat h
  rwa [Char.ofNat_toNat] at hc

/-- One run lists the capital letters of ASCII, one the Kelvin sign; no other has a lower case in
ASCII. -/
theorem image_lowerRuns_ascii : ∀ run ∈ lowerRuns,
    run.first = 0x41 ∧ run.last = 0x5A ∨ 0x80 ≤ run.image ∨
      run.first = run.last ∧ run.image = 'k'.toNat := by
  decide +kernel

/-- **A character whose lower case is in ASCII is itself in ASCII**, unless it is the Kelvin sign or
`İ`. -/
theorem ascii_of_mem_lowerChar {c d : Char} (h : d ∈ lowerChar c) (hd : IsAscii d) (hk : d ≠ 'k')
    (hdotted : c.toNat ≠ 0x130) : IsAscii c := by
  unfold IsAscii at hd ⊢
  rw [lowerChar, if_neg hdotted, List.mem_singleton] at h
  have hcode := (toNat_ofNat_lowerCode hdotted).1
  rw [← h] at hcode
  rcases lowerCode_cases c.toNat with hself | ⟨run, hrun, hcovers, hlower⟩
  · omega
  · simp only [CaseRun.covers, Bool.and_eq_true, decide_eq_true_eq] at hcovers
    rw [hlower, CaseRun.lower] at hcode
    rcases image_lowerRuns_ascii run hrun with hletters | himage | ⟨hsingle, himage⟩
    · omega
    · omega
    · -- the Kelvin sign
      have hsame : d.toNat = 'k'.toNat := by omega
      exact absurd (Char.toNat_inj.mp hsame) hk

/-- A text in ASCII is lower-cased letter by letter. -/
theorem lowerFrom_of_isAscii {before cs : List Char} (h : ∀ c ∈ cs, IsAscii c) :
    lowerFrom before cs = cs.map Char.toLower := by
  induction cs generalizing before with
  | nil => rfl
  | cons c after ih =>
    obtain ⟨hc, hafter⟩ := List.forall_mem_cons.mp h
    have hsigma : c ≠ capitalSigma := by
      rintro rfl
      exact absurd hc (by decide)
    rw [lowerFrom, if_neg hsigma, lowerChar_of_isAscii hc, ih hafter, List.map_cons,
      List.singleton_append]

/-- **A text whose lower case is in ASCII, without `k`, is in ASCII.** -/
theorem isAscii_of_lowerFrom {before cs : List Char}
    (h : ∀ d ∈ lowerFrom before cs, IsAscii d ∧ d ≠ 'k') : ∀ c ∈ cs, IsAscii c := by
  induction cs generalizing before with
  | nil => nofun
  | cons c after ih =>
    rw [lowerFrom] at h
    obtain ⟨hhead, hafter⟩ := List.forall_mem_append.mp h
    refine List.forall_mem_cons.mpr ⟨?_, ih hafter⟩
    by_cases hsigma : c = capitalSigma
    · -- neither small sigma is in ASCII
      rw [if_pos hsigma] at hhead
      have hsmall := (hhead _ List.mem_cons_self).1
      rw [lowerSigma] at hsmall
      split at hsmall
      · exact absurd hsmall (by decide)
      · exact absurd hsmall (by decide)
    · rw [if_neg hsigma] at hhead
      by_cases hdotted : c.toNat = 0x130
      · -- the dot of `İ` is not in ASCII
        have hdot := (hhead (Char.ofNat 0x307) (by rw [lowerChar, if_pos hdotted]; simp)).1
        exact absurd hdot (by decide)
      · have hlower : Char.ofNat (lowerCode c.toNat) ∈ lowerChar c := by
          rw [lowerChar, if_neg hdotted]
          exact List.mem_cons_self
        obtain ⟨hascii, hk⟩ := hhead _ hlower
        exact ascii_of_mem_lowerChar hlower hascii hk hdotted

/-! ## Variants -/

/-- **The small form of a character** has another code point for the capital letters of ASCII
only. -/
theorem toNat_toLower (c : Char) : c.toLower.toNat =
    if 0x41 ≤ c.toNat ∧ c.toNat ≤ 0x5A then c.toNat + 0x20 else c.toNat := by
  have hcapital : (c.val ≥ 'A'.val ∧ c.val ≤ 'Z'.val) ↔ (0x41 ≤ c.toNat ∧ c.toNat ≤ 0x5A) := by
    rw [ge_iff_le, UInt32.le_iff_toNat_le, UInt32.le_iff_toNat_le]
    rfl
  unfold Char.toLower
  by_cases h : c.val ≥ 'A'.val ∧ c.val ≤ 'Z'.val
  · have hcode := hcapital.mp h
    rw [dif_pos h, if_pos hcode]
    change (c.val + 32).toNat = c.toNat + 32
    rw [UInt32.toNat_add]
    change (c.toNat + 32) % 2 ^ 32 = c.toNat + 32
    omega
  · rw [dif_neg h, if_neg (hcapital.not.mp h)]

/-- The letters of ASCII, and what stands between the capital and the small ones, are not white
space. -/
theorem isBlank_eq_false_of_letter {c : Char} (h : 0x41 ≤ c.toNat ∧ c.toNat ≤ 0x7A) :
    isBlank c = false := by
  simp only [isBlank, Bool.or_eq_false_iff, Bool.and_eq_false_iff, decide_eq_false_iff_not,
    beq_eq_false_iff_ne]
  omega

/-- Making a letter small makes no white space of it. -/
theorem isBlank_toLower (c : Char) : isBlank c.toLower = isBlank c := by
  have hcode := toNat_toLower c
  by_cases h : 0x41 ≤ c.toNat ∧ c.toNat ≤ 0x5A
  · rw [if_pos h] at hcode
    rw [isBlank_eq_false_of_letter (c := c) (by omega),
      isBlank_eq_false_of_letter (c := c.toLower) (by omega)]
  · rw [if_neg h] at hcode
    rw [Char.toNat_inj.mp hcode]

/-- A character whose small form is in ASCII is itself in ASCII. -/
theorem isAscii_of_toLower {c : Char} (h : IsAscii c.toLower) : IsAscii c := by
  unfold IsAscii at h ⊢
  rw [toNat_toLower] at h
  split at h
  · omega
  · exact h

/-- **A text is a word in any case**: the word with any of its letters capital. -/
def MatchesWord (cs : List Char) (word : String) : Prop := cs.map Char.toLower = word.toList

instance (cs : List Char) (word : String) : Decidable (MatchesWord cs word) :=
  inferInstanceAs (Decidable (cs.map Char.toLower = word.toList))

/-- **A text is a variant of a word**: the word in any case, between white space. -/
def IsVariant (s word : String) : Prop := ∃ front core back,
  s.toList = front ++ core ++ back ∧ (∀ c ∈ front, isBlank c = true) ∧
    (∀ c ∈ back, isBlank c = true) ∧ MatchesWord core word

/-- A word that only its variants match: ASCII without `k` and without white space. -/
def IsPlainWord (word : String) : Prop :=
  ∀ c ∈ word.toList, (IsAscii c ∧ c ≠ 'k') ∧ isBlank c = false

-- decided along the word, not along all characters
instance (word : String) : Decidable (IsPlainWord word) :=
  List.decidableBAll (fun c => (IsAscii c ∧ c ≠ 'k') ∧ isBlank c = false) word.toList

/-- **A text matches a word once it is trimmed and lower-cased exactly when it is a variant.** -/
theorem lower_trim_eq_iff {s word : String} (hword : IsPlainWord word) :
    lower (trim s) = word ↔ IsVariant s word := by
  rw [← String.toList_inj, toList_lower, toList_trim]
  constructor
  · intro h
    have hascii : ∀ c ∈ trimChars s.toList, IsAscii c := by
      apply isAscii_of_lowerFrom
      intro d hd
      rw [h] at hd
      exact (hword d hd).1
    rw [lowerFrom_of_isAscii hascii] at h
    obtain ⟨front, back, hs, hfront, hback⟩ := exists_trimChars_append s.toList
    exact ⟨front, trimChars s.toList, back, hs, hfront, hback, h⟩
  · rintro ⟨front, core, back, hs, hfront, hback, hcore⟩
    have hmem : ∀ c ∈ core, c.toLower ∈ word.toList := fun c hc => by
      rw [← hcore]
      exact List.mem_map_of_mem hc
    have htrim : trimChars s.toList = core := by
      refine (trimChars_eq_iff fun c hc => ?_).mpr ⟨front, back, hs, hfront, hback⟩
      rw [← isBlank_toLower]
      exact (hword _ (hmem c hc)).2
    rw [htrim, lowerFrom_of_isAscii fun c hc => isAscii_of_toLower (hword _ (hmem c hc)).1.1]
    exact hcore

end CubeAssessment.Text
