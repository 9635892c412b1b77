import CubeAssessment.Clauses
import CubeAssessment.Proofs.Schema.LevelRef
import CubeAssessment.Proofs.Text.Separators

/-! # Reading the text of a clause back

The texts of clauses are rows separated by commas. A group-by clause is read back from its text
when no name in it has a comma (`GammaClause.eq_of_toList_text_eq`), a selection clause when the
quotes around its literals can be told from those within (`SigmaClause.eq_of_toList_text_eq`). -/

namespace CubeAssessment

/-! ## References -/

namespace LevelRef

/-- A reference brings no other characters to the name of its dimension than the mark and digits. -/
theorem not_mem_toList_text {r : LevelRef} {c : Char} (hc : c ∉ r.dimension.toList)
    (hmark : c ∉ ".lvl".toList) (hdigit : c.isDigit = false) : c ∉ r.text.toList := by
  rw [text, String.toList_append, String.toList_append, Nat.toString_eq_repr, Nat.toList_repr]
  intro h
  rcases List.mem_append.mp h with h | h
  · rcases List.mem_append.mp h with h | h
    · exact hc h
    · exact hmark h
  · have hisDigit := Nat.isDigit_of_mem_toDigits (by decide) (by decide) h
    rw [hdigit] at hisDigit
    cases hisDigit

/-- The text of a reference is not empty. -/
theorem toList_text_ne_nil (r : LevelRef) : r.text.toList ≠ [] := by
  simp [text]

end LevelRef

/-! ## Group-by -/

namespace GammaClause

/-- **No dimension grouped by has the character in its name.** -/
def Omits (gamma : GammaClause) (c : Char) : Prop :=
  ∀ r ∈ gamma.levels, c ∉ r.dimension.toList

instance (gamma : GammaClause) (c : Char) : Decidable (gamma.Omits c) :=
  inferInstanceAs (Decidable (∀ r ∈ gamma.levels, c ∉ r.dimension.toList))

/-- The characters of a group-by clause. -/
theorem toList_text (gamma : GammaClause) : gamma.text.toList =
    List.intercalate [','] (gamma.levels.map fun r => r.text.toList) := by
  rw [text, String.toList_intercalate, List.map_map]
  rfl

/-- Without line feeds in the names, a group-by clause is one line. -/
theorem Omits.not_mem_toList_text {gamma : GammaClause} (h : gamma.Omits '\n') :
    '\n' ∉ gamma.text.toList := by
  rw [toList_text]
  refine Text.not_mem_intercalate (by decide) fun cs hcs => ?_
  obtain ⟨r, hr, rfl⟩ := List.mem_map.mp hcs
  exact LevelRef.not_mem_toList_text (h r hr) (by decide) (by decide)

/-- References to dimensions without a comma in their names are readable. -/
theorem readable_levels : Text.Readable ',' (fun r : LevelRef => r.text.toList)
    fun r => ',' ∉ r.dimension.toList := by
  intro r s rest rest' hr hs hrest hrest' h
  obtain ⟨htext, hrest⟩ := Text.eq_of_append_eq_of_continues
    (LevelRef.not_mem_toList_text hr (by decide) (by decide))
    (LevelRef.not_mem_toList_text hs (by decide) (by decide)) hrest hrest' h
  exact ⟨LevelRef.eq_of_text_eq (String.toList_inj.mp htext), hrest⟩

/-- **Without commas in the names, a group-by clause is read back from its text.** -/
theorem eq_of_toList_text_eq {gamma gamma' : GammaClause} (h : gamma.Omits ',')
    (h' : gamma'.Omits ',') (heq : gamma.text.toList = gamma'.text.toList) : gamma = gamma' := by
  rw [toList_text, toList_text] at heq
  have hlevels : gamma.levels = gamma'.levels :=
    readable_levels.eq_of_intercalate_eq LevelRef.toList_text_ne_nil h h' heq
  exact congrArg GammaClause.mk hlevels

end GammaClause

/-! ## Selection -/

namespace Predicate

/-- The characters of a predicate. -/
theorem toList_text (p : Predicate) : p.text.toList =
    (p.level.text.toList ++ ['=']) ++ '\'' :: (p.literal.toList ++ ['\'']) := by
  simp [text]

/-- **A predicate whose quotes can be told apart**: no quote in the name of the dimension, and none
in the literal that a comma follows. -/
def Quotable (p : Predicate) : Prop :=
  '\'' ∉ p.level.dimension.toList ∧ ¬ ['\'', ','] <:+: p.literal.toList

instance (p : Predicate) : Decidable p.Quotable :=
  inferInstanceAs
    (Decidable ('\'' ∉ p.level.dimension.toList ∧ ¬ ['\'', ','] <:+: p.literal.toList))

/-- Predicates whose quotes can be told apart are readable. -/
theorem readable : Text.Readable ',' (fun p : Predicate => p.text.toList) Quotable := by
  intro p p' rest rest' hp hp' hrest hrest' h
  have hquote : ∀ {p : Predicate}, p.Quotable → '\'' ∉ p.level.text.toList ++ ['='] := by
    intro p hp hmem
    rcases List.mem_append.mp hmem with hmem | hmem
    · exact LevelRef.not_mem_toList_text hp.1 (by decide) (by decide) hmem
    · exact absurd hmem (by decide)
  have hquoted : (p.level.text.toList ++ ['=']) ++ '\'' :: (p.literal.toList ++ '\'' :: rest) =
      (p'.level.text.toList ++ ['=']) ++ '\'' :: (p'.literal.toList ++ '\'' :: rest') := by
    simpa [toList_text] using h
  obtain ⟨hlevel, hliteral⟩ := Text.eq_of_append_cons_eq (hquote hp) (hquote hp') hquoted
  obtain ⟨hliteral, hrest⟩ :=
    Text.eq_of_quoted_eq (by decide) hp.2 hp'.2 hrest hrest' hliteral
  have hlevel : p.level = p'.level :=
    LevelRef.eq_of_text_eq (String.toList_inj.mp (List.append_cancel_right hlevel))
  have hliteral : p.literal = p'.literal := String.toList_inj.mp hliteral
  refine ⟨?_, hrest⟩
  cases p
  cases p'
  rw [Predicate.mk.injEq]
  exact ⟨hlevel, hliteral⟩

end Predicate

namespace SigmaClause

/-- **No dimension selected by has the character in its name, and no literal has it.** -/
def Omits (sigma : SigmaClause) (c : Char) : Prop :=
  ∀ p ∈ sigma.predicates, c ∉ p.level.dimension.toList ∧ c ∉ p.literal.toList

instance (sigma : SigmaClause) (c : Char) : Decidable (sigma.Omits c) :=
  inferInstanceAs
    (Decidable (∀ p ∈ sigma.predicates, c ∉ p.level.dimension.toList ∧ c ∉ p.literal.toList))

/-- The characters of a selection clause. -/
theorem toList_text (sigma : SigmaClause) : sigma.text.toList =
    List.intercalate [','] (sigma.predicates.map fun p => p.text.toList) := by
  rw [text, String.toList_intercalate, List.map_map]
  rfl

/-- Without line feeds in the names and literals, a selection clause is one line. -/
theorem Omits.not_mem_toList_text {sigma : SigmaClause} (h : sigma.Omits '\n') :
    '\n' ∉ sigma.text.toList := by
  rw [toList_text]
  refine Text.not_mem_intercalate (by decide) fun cs hcs => ?_
  obtain ⟨p, hp, rfl⟩ := List.mem_map.mp hcs
  obtain ⟨hdimension, hliteral⟩ := h p hp
  have hlevel := LevelRef.not_mem_toList_text hdimension (by decide) (by decide)
  rw [Predicate.toList_text]
  simp [hlevel, hliteral]

/-- **When quotes can be told apart, a selection clause is read back from its text.** -/
theorem eq_of_toList_text_eq {sigma sigma' : SigmaClause}
    (h : ∀ p ∈ sigma.predicates, p.Quotable) (h' : ∀ p ∈ sigma'.predicates, p.Quotable)
    (heq : sigma.text.toList = sigma'.text.toList) : sigma = sigma' := by
  rw [toList_text, toList_text] at heq
  have hnonempty : ∀ p : Predicate, p.text.toList ≠ [] := fun p => by simp [Predicate.toList_text]
  have hpredicates : sigma.predicates = sigma'.predicates :=
    Predicate.readable.eq_of_intercalate_eq hnonempty h h' heq
  exact congrArg SigmaClause.mk hpredicates

end SigmaClause

end CubeAssessment
