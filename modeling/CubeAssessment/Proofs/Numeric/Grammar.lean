import CubeAssessment.Proofs.Numeric.ReadBack
import CubeAssessment.Proofs.Text.Variants

/-! # The grammar of numbers

Which texts are numbers and what they stand for, said without the readers: a literal is an optional
sign followed by digits with at most one point and an optional exponent, or by one of three words in
any case. The readers accept exactly the texts of the grammar and give what these stand for
(`readNatural_eq_some_iff`, `readDecimal_eq_some_iff`, `read_eq_some_iff`). -/

namespace CubeAssessment.Literal

/-! ## Natural numbers -/

/-- **One or more decimal digits.** -/
def Digits (cs : List Char) : Prop := cs ≠ [] ∧ AreDigits cs

/-- The readers refuse as such what is not digits. -/
theorem ite_digits_eq_some_iff {α : Type} {cs : List Char} {r : Option α} {v : α} :
    (if cs.isEmpty || !cs.all Char.isDigit then none else r) = some v ↔ Digits cs ∧ r = some v := by
  have hdigits : (cs.isEmpty || !cs.all Char.isDigit) = false ↔ Digits cs := by
    rw [Bool.or_eq_false_iff, List.isEmpty_eq_false_iff, Bool.not_eq_false', List.all_eq_true]
    rfl
  by_cases h : Digits cs
  · rw [hdigits.mpr h, if_neg Bool.false_ne_true, and_iff_right h]
  · rw [if_pos (by rwa [← Bool.not_eq_false, hdigits])]
    exact iff_of_false nofun fun hboth => h hboth.1

/-- **The texts of a natural number**: one or more digits, after a plus or not. -/
inductive SpellsNatural : List Char → Nat → Prop where
  /-- Digits alone. -/
  | plain {digits : List Char} :
      Digits digits → SpellsNatural digits (Nat.ofDigitChars 10 digits 0)
  /-- Digits after a plus. -/
  | plus {digits : List Char} :
      Digits digits → SpellsNatural ('+' :: digits) (Nat.ofDigitChars 10 digits 0)

/-- **A text is read as a natural number exactly when it spells it**, however long it is. -/
theorem readNatural_eq_some_iff {s : String} {n : Nat} :
    readNatural s = some n ↔ SpellsNatural s.toList n := by
  rw [readNatural, ite_digits_eq_some_iff, Option.some.injEq]
  generalize s.toList = cs
  -- a plus in front is cut off before the digits are looked at
  split
  · next rest =>
    constructor
    · rintro ⟨hdigits, rfl⟩
      exact .plus hdigits
    · intro h
      cases h with
      | plain hdigits => exact absurd (hdigits.2 '+' List.mem_cons_self) (by decide)
      | plus hdigits => exact ⟨hdigits, rfl⟩
  · next hplain =>
    constructor
    · rintro ⟨hdigits, rfl⟩
      exact .plain hdigits
    · intro h
      cases h with
      | plain hdigits => exact ⟨hdigits, rfl⟩
      | plus hdigits => exact absurd rfl (hplain _)

/-! ## Decimals -/

/-- **An optional sign**, and whether it is a minus. -/
inductive Sign : List Char → Bool → Prop where
  /-- No sign. -/
  | none : Sign [] false
  /-- A plus. -/
  | plus : Sign ['+'] false
  /-- A minus. -/
  | minus : Sign ['-'] true

/-- What stands behind an optional sign does not begin with another one. -/
def Unsigned (cs : List Char) : Prop := ∀ c ∈ cs.head?, c ≠ '+' ∧ c ≠ '-'

/-- A text without a sign is not split. -/
theorem splitSign_of_unsigned {cs : List Char} (h : Unsigned cs) : splitSign cs = (false, cs) := by
  unfold splitSign
  split
  · exact absurd rfl (h '-' rfl).2
  · exact absurd rfl (h '+' rfl).1
  · rfl

/-- A sign is split off what has none itself. -/
theorem Sign.splitSign_append {sign body : List Char} {negative : Bool} (h : Sign sign negative)
    (hbody : Unsigned body) : splitSign (sign ++ body) = (negative, body) := by
  cases h with
  | none => exact splitSign_of_unsigned hbody
  | plus => rfl
  | minus => rfl

/-- What is split off is an optional sign. -/
theorem exists_sign_of_splitSign {cs body : List Char} {negative : Bool}
    (h : splitSign cs = (negative, body)) : ∃ sign, Sign sign negative ∧ cs = sign ++ body := by
  unfold splitSign at h
  split at h
  · cases h
    exact ⟨_, .minus, rfl⟩
  · cases h
    exact ⟨_, .plus, rfl⟩
  · cases h
    exact ⟨_, .none, rfl⟩

/-- Neither a digit nor a point is a sign. -/
theorem unsigned_cons {c : Char} {cs : List Char} (h : c.isDigit = true ∨ c = '.') :
    Unsigned (c :: cs) := by
  intro d hd
  cases hd
  constructor
  · rintro rfl
    exact absurd h (by decide)
  · rintro rfl
    exact absurd h (by decide)

/-- Digits have no sign in front. -/
theorem Digits.unsigned {cs : List Char} (h : Digits cs) : Unsigned cs := by
  obtain ⟨hne, hdigits⟩ := h
  cases cs with
  | nil => exact absurd rfl hne
  | cons c cs => exact unsigned_cons (Or.inl (hdigits c List.mem_cons_self))

/-- **An optional exponent**: `e` or `E`, an optional sign and one or more digits. Exponents far out
of the range of doubles count with their leading digits. -/
inductive Exponent : List Char → Int → Prop where
  /-- No exponent. -/
  | none : Exponent [] 0
  /-- An exponent with its sign. -/
  | some {mark : Char} {sign digits : List Char} {negative : Bool} :
      mark = 'e' ∨ mark = 'E' → Sign sign negative → Digits digits →
      Exponent (mark :: (sign ++ digits))
        (if negative then -exponentValue digits else exponentValue digits)

/-- **What follows the digits of a decimal is read exactly when it is an optional exponent.** -/
theorem readExponent_eq_some_iff {cs : List Char} {k : Int} :
    readExponent cs = some k ↔ Exponent cs k := by
  constructor
  · intro h
    cases cs with
    | nil =>
      cases h
      exact .none
    | cons mark rest =>
      rw [readExponent] at h
      split at h
      · next hmark =>
        cases hsplit : splitSign rest with
        | mk negative digits =>
          rw [hsplit] at h
          dsimp only at h
          obtain ⟨hdigits, hvalue⟩ := ite_digits_eq_some_iff.mp h
          obtain ⟨sign, hsign, rfl⟩ := exists_sign_of_splitSign hsplit
          have hexponent := Exponent.some hmark hsign hdigits
          rw [← apply_ite Option.some, Option.some.injEq] at hvalue
          rwa [hvalue] at hexponent
      · cases h
  · intro h
    cases h with
    | none => rfl
    | some hmark hsign hdigits =>
      rw [readExponent, if_pos hmark, hsign.splitSign_append hdigits.unsigned]
      dsimp only
      rw [ite_digits_eq_some_iff, ← apply_ite Option.some]
      exact ⟨hdigits, rfl⟩

/-- An exponent ends the digits before it and does not begin with a point. -/
theorem Exponent.endsDigits {cs : List Char} {k : Int} (h : Exponent cs k) :
    EndsDigits cs ∧ ∀ tail, cs ≠ '.' :: tail := by
  cases h with
  | none => exact ⟨endsDigits_nil, nofun⟩
  | @some mark _ _ _ hmark _ _ =>
    constructor
    · intro c hc
      cases hc
      rcases hmark with rfl | rfl
      · rfl
      · rfl
    · intro tail heq
      injection heq with hpoint _
      rcases hmark with rfl | rfl
      · exact absurd hpoint (by decide)
      · exact absurd hpoint (by decide)

/-- **Digits with at most one point**: the text, with its digits before and behind the point. There
is a digit on one side at least. -/
inductive Pointed : List Char → List Char → List Char → Prop where
  /-- Digits without a point. -/
  | whole {whole : List Char} : Digits whole → Pointed whole whole []
  /-- Digits around a point. -/
  | point {whole fraction : List Char} : AreDigits whole → AreDigits fraction →
      whole ≠ [] ∨ fraction ≠ [] → Pointed (whole ++ '.' :: fraction) whole fraction

/-- **The texts of a decimal**: digits with at most one point, then an optional exponent. The digits
are one number, and each digit behind the point lowers the exponent by one. -/
inductive SpellsDecimal : List Char → Decimal → Prop where
  /-- A row of digits and its exponent. -/
  | intro {row whole fraction rest : List Char} {k : Int} :
      Pointed row whole fraction → Exponent rest k →
      SpellsDecimal (row ++ rest)
        ⟨Nat.ofDigitChars 10 (whole ++ fraction) 0, k - fraction.length⟩

/-- The characters of a text up to the first that is no digit are digits. -/
theorem areDigits_takeWhile (cs : List Char) : AreDigits (cs.takeWhile Char.isDigit) :=
  fun _ hc => List.mem_takeWhile_imp hc

/-- **A text is read as a decimal exactly when it spells it.** -/
theorem readDecimal_eq_some_iff {cs : List Char} {x : Decimal} :
    readDecimal cs = some x ↔ SpellsDecimal cs x := by
  constructor
  · intro h
    rw [readDecimal] at h
    have hcut := List.takeWhile_append_dropWhile (p := Char.isDigit) (l := cs)
    have hwhole := areDigits_takeWhile cs
    generalize cs.takeWhile Char.isDigit = whole at h hcut hwhole
    generalize cs.dropWhile Char.isDigit = afterWhole at h hcut
    subst hcut
    split at h
    next fraction rest hsplit =>
      -- there is a digit, and an exponent behind the last one
      have hread : (whole ≠ [] ∨ fraction ≠ []) ∧ ∃ k, Exponent rest k ∧
          (⟨Nat.ofDigitChars 10 (whole ++ fraction) 0, k - fraction.length⟩ : Decimal) = x := by
        split at h
        · cases h
        · next hsome =>
          rw [Bool.and_eq_true, List.isEmpty_iff, List.isEmpty_iff, not_and_or] at hsome
          obtain ⟨k, hk, hx⟩ := Option.map_eq_some_iff.mp h
          exact ⟨hsome, k, readExponent_eq_some_iff.mp hk, hx⟩
      obtain ⟨hsome, k, hexponent, rfl⟩ := hread
      split at hsplit
      · next tail =>
        cases hsplit
        have hpoint := SpellsDecimal.intro (.point hwhole (areDigits_takeWhile tail) hsome)
          hexponent
        rw [List.append_assoc, List.cons_append, List.takeWhile_append_dropWhile] at hpoint
        exact hpoint
      · cases hsplit
        have hunpointed := SpellsDecimal.intro
          (.whole ⟨hsome.resolve_right fun hnil => hnil rfl, hwhole⟩) hexponent
        rw [List.append_nil] at hunpointed ⊢
        exact hunpointed
  · intro h
    cases h with
    | intro hrow hexponent =>
      have hread := readExponent_eq_some_iff.mpr hexponent
      obtain ⟨hends, hpoint⟩ := hexponent.endsDigits
      cases hrow with
      | whole hdigits =>
        rw [readDecimal_unpointed hdigits.2 hdigits.1 hends hpoint, hread, List.append_nil]
        simp
      | point hwhole hfraction hne =>
        rw [List.append_assoc, List.cons_append, readDecimal_pointed hwhole hfraction hne hends,
          hread]
        rfl

/-- A decimal begins with a digit or a point. -/
theorem SpellsDecimal.exists_head {cs : List Char} {x : Decimal} (h : SpellsDecimal cs x) :
    ∃ c rest, cs = c :: rest ∧ (c.isDigit = true ∨ c = '.') := by
  cases h with
  | @intro row whole _ _ _ hrow _ =>
    cases hrow with
    | whole hdigits =>
      obtain ⟨hne, hdigits⟩ := hdigits
      cases row with
      | nil => exact absurd rfl hne
      | cons c cs => exact ⟨c, _, rfl, Or.inl (hdigits c List.mem_cons_self)⟩
    | point hdigits _ _ =>
      cases whole with
      | nil => exact ⟨'.', _, rfl, Or.inr rfl⟩
      | cons c cs => exact ⟨c, _, rfl, Or.inl (hdigits c List.mem_cons_self)⟩

/-- A decimal has no sign in front. -/
theorem SpellsDecimal.unsigned {cs : List Char} {x : Decimal} (h : SpellsDecimal cs x) :
    Unsigned cs := by
  obtain ⟨c, rest, rfl, hhead⟩ := h.exists_head
  exact unsigned_cons hhead

/-! ## Words -/

/-- No digit, point or sign has a letter for its small form. -/
theorem not_isDigit_of_toLower {c : Char} (h : c.toLower = 'i' ∨ c.toLower = 'n') :
    ¬ c.isDigit = true ∧ c ≠ '.' ∧ c ≠ '+' ∧ c ≠ '-' := by
  refine ⟨fun hdigit => ?_, ?_, ?_, ?_⟩
  · have hcode := toNat_of_isDigit hdigit
    have hsmall := Text.toNat_toLower c
    rw [if_neg (by omega)] at hsmall
    rcases h with h | h
    · rw [h] at hsmall
      exact absurd hcode.2 (by rw [← hsmall]; decide)
    · rw [h] at hsmall
      exact absurd hcode.2 (by rw [← hsmall]; decide)
  all_goals
    rintro rfl
    exact absurd h (by decide)

/-- The words for values that are no real numbers have no sign in front and are no decimals. -/
theorem not_decimal_of_word {cs : List Char}
    (h : (Text.MatchesWord cs "inf" ∨ Text.MatchesWord cs "infinity") ∨
      Text.MatchesWord cs "nan") :
    Unsigned cs ∧ readDecimal cs = none := by
  cases cs with
  | nil => exact absurd h (by decide)
  | cons c rest =>
    have hhead : c.toLower = 'i' ∨ c.toLower = 'n' := by
      rcases h with (h | h) | h
      · exact Or.inl (List.cons.inj h).1
      · exact Or.inl (List.cons.inj h).1
      · exact Or.inr (List.cons.inj h).1
    obtain ⟨hdigit, hpoint, hplus, hminus⟩ := not_isDigit_of_toLower hhead
    constructor
    · intro d hd
      cases hd
      exact ⟨hplus, hminus⟩
    · cases hread : readDecimal (c :: rest) with
      | none => rfl
      | some x =>
        obtain ⟨d, _, heq, hd⟩ := (readDecimal_eq_some_iff.mp hread).exists_head
        cases heq
        exact absurd hd (not_or.mpr ⟨hdigit, hpoint⟩)

/-! ## Literals -/

/-- **The texts of a double**: an optional sign, then a decimal, which stands for the nearest
double, or a word for an infinity or for NaN in any case. -/
inductive Spells : List Char → Binary64 → Prop where
  /-- A decimal, rounded. -/
  | decimal {sign body : List Char} {negative : Bool} {x : Decimal} :
      Sign sign negative → SpellsDecimal body x →
      Spells (sign ++ body) (.signed negative x.toMagnitude)
  /-- A word for infinity. -/
  | infinity {sign word : List Char} {negative : Bool} :
      Sign sign negative → Text.MatchesWord word "inf" ∨ Text.MatchesWord word "infinity" →
      Spells (sign ++ word) (.signed negative .infinity)
  /-- The word for NaN, whose sign does not count. -/
  | nan {sign word : List Char} {negative : Bool} :
      Sign sign negative → Text.MatchesWord word "nan" → Spells (sign ++ word) .nan

/-- **A text is read as a double exactly when it spells it.** -/
theorem read_eq_some_iff {s : String} {x : Binary64} : read s = some x ↔ Spells s.toList x := by
  constructor
  · intro h
    unfold read at h
    cases hsplit : splitSign s.toList with
    | mk negative body =>
      rw [hsplit] at h
      obtain ⟨sign, hsign, hcut⟩ := exists_sign_of_splitSign hsplit
      rw [hcut]
      dsimp only at h
      cases hread : readDecimal body with
      | some y =>
        rw [hread] at h
        cases h
        exact .decimal hsign (readDecimal_eq_some_iff.mp hread)
      | none =>
        rw [hread] at h
        dsimp only [readWord] at h
        split at h
        · next hword =>
          cases h
          exact .infinity hsign hword
        · split at h
          · next hword =>
            cases h
            exact .nan hsign hword
          · cases h
  · intro h
    unfold read
    generalize s.toList = cs at h ⊢
    cases h with
    | decimal hsign hbody =>
      rw [hsign.splitSign_append hbody.unsigned]
      dsimp only
      rw [readDecimal_eq_some_iff.mpr hbody]
    | @infinity _ word _ hsign hword =>
      obtain ⟨hunsigned, hnone⟩ := not_decimal_of_word (Or.inl hword)
      rw [hsign.splitSign_append hunsigned]
      dsimp only [readWord]
      rw [hnone]
      exact if_pos hword
    | @nan _ word _ hsign hword =>
      obtain ⟨hunsigned, hnone⟩ := not_decimal_of_word (Or.inr hword)
      have hother : ¬ (Text.MatchesWord word "inf" ∨ Text.MatchesWord word "infinity") := by
        unfold Text.MatchesWord at hword ⊢
        rw [hword]
        decide
      rw [hsign.splitSign_append hunsigned]
      dsimp only [readWord]
      rw [hnone]
      exact (if_neg hother).trans (if_pos hword)

/-- **A text is read as a real number exactly when it spells one**: a literal that overflows, or is
a word, spells none. -/
theorem readFinite_eq_some_iff {s : String} {x : Binary64} :
    readFinite s = some x ↔ Spells s.toList x ∧ x.isFinite = true := by
  rw [readFinite, Option.filter_eq_some_iff, read_eq_some_iff]

end CubeAssessment.Literal
