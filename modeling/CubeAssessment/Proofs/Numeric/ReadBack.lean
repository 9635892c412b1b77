import CubeAssessment.Proofs.Numeric.Rounding
import CubeAssessment.Text.Blank
import Mathlib.Data.List.TakeWhile
import Mathlib.Data.String.Basic

/-! # Numbers read back from their text

A row of digits is written with its point in the place it has, with zeros to reach it, or with an
exponent. Reading either layout gives the decimal of the row, up to zeros at its end
(`DigitRow.exists_readDecimal_general`, `DigitRow.exists_readDecimal_plain`), and the row of a
finite magnitude is that of a decimal which rounds to it. So every finite double is read back from
its texts, its sign included (`Literal.readFinite_generalText`, `Literal.readFinite_plainText`). -/

namespace CubeAssessment

namespace Literal

/-! ## Runs of digits -/

/-- The digits are one run of code points. -/
theorem toNat_of_isDigit {c : Char} (h : c.isDigit = true) : 48 ≤ c.toNat ∧ c.toNat ≤ 57 := by
  simpa [Char.isDigit, UInt32.le_iff_toNat_le] using h

/-- Nothing but decimal digits. -/
def AreDigits (cs : List Char) : Prop := ∀ c ∈ cs, c.isDigit = true

/-- The digits of a number are digits. -/
theorem areDigits_toDigits (n : Nat) : AreDigits (Nat.toDigits 10 n) := fun _ hc =>
  Nat.isDigit_of_mem_toDigits (by decide) (by decide) hc

/-- The digits of a number are not refused: there are some, and they are digits. -/
theorem isEmpty_or_not_all_toDigits (n : Nat) :
    ((Nat.toDigits 10 n).isEmpty || !(Nat.toDigits 10 n).all Char.isDigit) = false := by
  rw [List.all_eq_true.mpr (areDigits_toDigits n), List.isEmpty_eq_false_iff.mpr
    Nat.toDigits_ne_nil]
  rfl

/-- Zeros are digits. -/
theorem areDigits_replicate_zero (n : Nat) : AreDigits (List.replicate n '0') := fun _ hc =>
  List.eq_of_mem_replicate hc ▸ rfl

theorem AreDigits.append {cs ds : List Char} (hcs : AreDigits cs) (hds : AreDigits ds) :
    AreDigits (cs ++ ds) := fun c hc => (List.mem_append.mp hc).elim (hcs c) (hds c)

theorem AreDigits.sublist {cs ds : List Char} (hds : AreDigits ds) (h : cs.Sublist ds) :
    AreDigits cs := fun c hc => hds c (h.subset hc)

/-- What may follow a run of digits: nothing, or something that begins with another character. -/
def EndsDigits (rest : List Char) : Prop := ∀ c ∈ rest.head?, c.isDigit = false

/-- Digits end where the text does. -/
theorem endsDigits_nil : EndsDigits [] := nofun

/-- A run of digits is taken up to its end. -/
theorem AreDigits.takeWhile_append {cs rest : List Char} (hcs : AreDigits cs)
    (hrest : EndsDigits rest) : (cs ++ rest).takeWhile Char.isDigit = cs := by
  rw [List.takeWhile_append_of_pos hcs]
  cases rest with
  | nil => rw [List.takeWhile_nil, List.append_nil]
  | cons c rest =>
      rw [List.takeWhile_cons_of_neg (Bool.eq_false_iff.mp (hrest c rfl)), List.append_nil]

/-- Behind a run of digits stands what follows it. -/
theorem AreDigits.dropWhile_append {cs rest : List Char} (hcs : AreDigits cs)
    (hrest : EndsDigits rest) : (cs ++ rest).dropWhile Char.isDigit = rest := by
  rw [List.dropWhile_append_of_pos hcs]
  cases rest with
  | nil => rfl
  | cons c rest => rw [List.dropWhile_cons_of_neg (Bool.eq_false_iff.mp (hrest c rfl))]

/-! ## Exponents -/

/-- More digits make a number no smaller. -/
theorem le_ofDigitChars (cs : List Char) (n : Nat) : n ≤ Nat.ofDigitChars 10 cs n := by
  rw [Nat.ofDigitChars_eq_ofDigitChars_zero]
  calc n ≤ 10 ^ cs.length * n := Nat.le_mul_of_pos_left n (Nat.pow_pos (by decide))
    _ ≤ 10 ^ cs.length * n + Nat.ofDigitChars 10 cs 0 := Nat.le_add_right _ _

/-- **An exponent below the bound is read exactly**: no digit of it is passed over. -/
theorem exponentValue_eq {cs : List Char} (h : Nat.ofDigitChars 10 cs 0 < 65536) :
    exponentValue cs = Nat.ofDigitChars 10 cs 0 := by
  rw [exponentValue]
  generalize 0 = n at h ⊢
  induction cs generalizing n with
  | nil => rfl
  | cons c cs ih =>
      rw [Nat.ofDigitChars_cons] at h ⊢
      have hn : n < 65536 := by
        calc n ≤ 10 * n + (c.toNat - '0'.toNat) := by omega
          _ ≤ Nat.ofDigitChars 10 cs (10 * n + (c.toNat - '0'.toNat)) := le_ofDigitChars _ _
          _ < 65536 := h
      rw [List.foldl_cons, if_pos hn]
      exact ih _ h

/-- What begins with a digit has no sign. -/
theorem splitSign_of_isDigit {c : Char} {cs : List Char} (h : c.isDigit = true) :
    splitSign (c :: cs) = (false, c :: cs) := by
  unfold splitSign
  split
  · next heq =>
    cases heq
    exact absurd h (by decide)
  · next heq =>
    cases heq
    exact absurd h (by decide)
  · rfl

/-- The digits of a number have no sign. -/
theorem splitSign_toDigits (n : Nat) :
    splitSign (Nat.toDigits 10 n) = (false, Nat.toDigits 10 n) := by
  have hdigits := areDigits_toDigits n
  cases hn : Nat.toDigits 10 n with
  | nil => exact absurd hn Nat.toDigits_ne_nil
  | cons c cs =>
      rw [hn] at hdigits
      exact splitSign_of_isDigit (hdigits c List.mem_cons_self)

/-- **An exponent is read back from its text.** -/
theorem readExponent_exponentText {exponent : Int} (h : exponent.natAbs < 65536) :
    readExponent ('e' :: DigitRow.exponentText exponent) = some exponent := by
  have hdigits := isEmpty_or_not_all_toDigits exponent.natAbs
  have hvalue : exponentValue (Nat.toDigits 10 exponent.natAbs) = exponent.natAbs := by
    rw [exponentValue_eq (by rwa [Nat.ofDigitChars_ten_toDigits]), Nat.ofDigitChars_ten_toDigits]
  rw [readExponent, if_pos (Or.inl rfl), DigitRow.exponentText]
  by_cases hneg : exponent < 0
  · rw [if_pos hneg, splitSign]
    simp only [hdigits, hvalue, Bool.false_eq_true, if_false, if_true, Option.some.injEq]
    omega
  · rw [if_neg hneg, splitSign_toDigits]
    simp only [hdigits, hvalue, Bool.false_eq_true, if_false, Option.some.injEq]
    omega

/-! ## Natural numbers -/

/-- The text of a natural number is its digits. -/
theorem toList_toString (n : Nat) : (toString n).toList = Nat.toDigits 10 n := by
  rw [Nat.toString_eq_repr, Nat.toList_repr]

/-- **A natural number is read back from its text.** -/
theorem readNatural_toString (n : Nat) : readNatural (toString n) = some n := by
  have hdigits := areDigits_toDigits n
  rw [readNatural, toList_toString]
  split
  · next hplus =>
    rw [hplus] at hdigits
    exact absurd (hdigits '+' List.mem_cons_self) (by decide)
  · rw [isEmpty_or_not_all_toDigits, if_neg Bool.false_ne_true, Nat.ofDigitChars_ten_toDigits]

/-! ## Decimals -/

/-- **Digits with a point among them** are read as one number, the exponent lowered by the number of
digits behind the point. -/
theorem readDecimal_pointed {whole fraction rest : List Char} (hwhole : AreDigits whole)
    (hfraction : AreDigits fraction) (hne : whole ≠ [] ∨ fraction ≠ []) (hrest : EndsDigits rest) :
    readDecimal (whole ++ '.' :: (fraction ++ rest)) = (readExponent rest).map fun exponent =>
      ⟨Nat.ofDigitChars 10 (whole ++ fraction) 0, exponent - fraction.length⟩ := by
  have hpoint : EndsDigits ('.' :: (fraction ++ rest)) := by
    intro c hc
    cases hc
    rfl
  have hsome : (whole.isEmpty && fraction.isEmpty) = false := by
    rw [Bool.and_eq_false_iff, List.isEmpty_eq_false_iff, List.isEmpty_eq_false_iff]
    exact hne
  rw [readDecimal, hwhole.takeWhile_append hpoint, hwhole.dropWhile_append hpoint]
  simp only [hfraction.takeWhile_append hrest, hfraction.dropWhile_append hrest, hsome,
    Bool.false_eq_true, if_false]

/-- **Digits without a point** are read as a number. -/
theorem readDecimal_unpointed {whole rest : List Char} (hwhole : AreDigits whole) (hne : whole ≠ [])
    (hrest : EndsDigits rest) (hpoint : ∀ tail, rest ≠ '.' :: tail) :
    readDecimal (whole ++ rest) = (readExponent rest).map fun exponent =>
      ⟨Nat.ofDigitChars 10 whole 0, exponent⟩ := by
  rw [readDecimal, hwhole.takeWhile_append hrest, hwhole.dropWhile_append hrest]
  split
  next fraction rest' heq =>
    split at heq
    · exact absurd rfl (hpoint _)
    · cases heq
      simp [List.isEmpty_eq_false_iff.mpr hne]

/-- A decimal begins with no sign. -/
theorem splitSign_of_readDecimal {cs : List Char} {x : Decimal} (h : readDecimal cs = some x) :
    splitSign cs = (false, cs) := by
  unfold splitSign
  split
  · exact absurd h (by simp [readDecimal])
  · exact absurd h (by simp [readDecimal])
  · rfl

end Literal

namespace DigitRow

open Literal

/-! ## Rows of digits -/

/-- The decimal of a row of digits. -/
def decimal (row : DigitRow) : Decimal :=
  ⟨Nat.ofDigitChars 10 row.digits 0, row.point - row.digits.length⟩

/-- The zeros at the end of a number are all that its row leaves out. -/
theorem exists_digits_append (x : Decimal) :
    ∃ k, Nat.toDigits 10 x.coefficient = (ofDecimal x).digits ++ List.replicate k '0' := by
  have hsplit := List.takeWhile_append_dropWhile (p := (· == '0'))
    (l := (Nat.toDigits 10 x.coefficient).reverse)
  have hzeros : ∀ c ∈ (Nat.toDigits 10 x.coefficient).reverse.takeWhile (· == '0'), c = '0' :=
    fun c hc => by simpa using List.mem_takeWhile_imp hc
  refine ⟨((Nat.toDigits 10 x.coefficient).reverse.takeWhile (· == '0')).length,
    List.reverse_injective ?_⟩
  rw [List.reverse_append, List.reverse_replicate, ← List.eq_replicate_of_mem hzeros, ofDecimal,
    List.reverse_reverse, hsplit]

/-- The digits of a row are digits. -/
theorem areDigits_ofDecimal (x : Decimal) : AreDigits (ofDecimal x).digits := by
  obtain ⟨k, hk⟩ := exists_digits_append x
  exact (areDigits_toDigits x.coefficient).sublist (hk ▸ List.sublist_append_left _ _)

/-- **A decimal is that of its row**, up to zeros at its end. -/
theorem exists_decimal_padded_eq (x : Decimal) : ∃ k, (ofDecimal x).decimal.padded k = x := by
  obtain ⟨k, hk⟩ := exists_digits_append x
  refine ⟨k, ?_⟩
  have hvalue : Nat.ofDigitChars 10 (ofDecimal x).digits 0 * power 10 k = x.coefficient := by
    rw [← Nat.ofDigitChars_ten_toDigits (n := x.coefficient), hk, Nat.ofDigitChars_append,
      Nat.ofDigitChars_replicate_zero, power_eq, Nat.mul_comm]
  have hpoint : (ofDecimal x).point = (Nat.toDigits 10 x.coefficient).length + x.exponent := rfl
  have hlength := congrArg List.length hk
  rw [List.length_append, List.length_replicate] at hlength
  cases x with
  | mk c e =>
    rw [decimal, Decimal.padded, hvalue, Decimal.mk.injEq]
    refine ⟨rfl, ?_⟩
    dsimp only at hpoint hlength ⊢
    omega

/-! ## Layouts -/

variable {row : DigitRow}

/-- The digits before the point are digits. -/
theorem areDigits_wholePart (h : AreDigits row.digits) : AreDigits row.wholePart := by
  rw [wholePart]
  split
  · exact areDigits_replicate_zero 1
  · exact (h.sublist (List.take_sublist _ _)).append (areDigits_replicate_zero _)

/-- The digits behind the point are digits. -/
theorem areDigits_fractionPart (h : AreDigits row.digits) : AreDigits row.fractionPart := by
  rw [fractionPart]
  split
  · exact (areDigits_replicate_zero _).append h
  · exact h.sublist (List.drop_sublist _ _)

/-- There is a digit before the point. -/
theorem wholePart_ne_nil (row : DigitRow) : row.wholePart ≠ [] := by
  rw [wholePart]
  split
  · exact List.cons_ne_nil _ _
  · intro hnil
    have hlength := congrArg List.length hnil
    simp only [List.length_append, List.length_take, List.length_replicate,
      List.length_nil] at hlength
    omega

/-- **The digits around the point are those of the row**, with the zeros that are written to reach
the point. -/
theorem decimal_written (row : DigitRow) :
    (⟨Nat.ofDigitChars 10 (row.wholePart ++ row.fractionPart) 0, -(row.fractionPart.length : Int)⟩ :
      Decimal) = row.decimal.padded (row.point.toNat - row.digits.length) := by
  rw [decimal, Decimal.padded, Decimal.mk.injEq, power_eq, Nat.mul_comm]
  by_cases hpoint : row.point ≤ 0
  · -- nothing but zeros before the digits
    have hzeros : row.point.toNat - row.digits.length = 0 := by omega
    rw [wholePart, fractionPart, if_pos hpoint, if_pos hpoint, hzeros, pow_zero, Nat.one_mul]
    refine ⟨?_, ?_⟩
    · rw [Nat.ofDigitChars_append, Nat.ofDigitChars_append, Nat.ofDigitChars_replicate_zero]
      rfl
    · rw [List.length_append, List.length_replicate]
      push_cast
      omega
  · rw [wholePart, fractionPart, if_neg hpoint, if_neg hpoint]
    rcases Nat.le_total row.digits.length row.point.toNat with hle | hle
    · -- all digits stand before the point, and zeros behind them
      rw [List.take_of_length_le hle, List.drop_of_length_le hle, List.append_nil,
        Nat.ofDigitChars_append, Nat.ofDigitChars_replicate_zero]
      refine ⟨rfl, ?_⟩
      dsimp only [List.length_nil]
      omega
    · -- the point stands among the digits
      have hzeros : row.point.toNat - row.digits.length = 0 := by omega
      rw [hzeros, List.replicate_zero, List.append_nil, List.take_append_drop, pow_zero,
        Nat.one_mul]
      refine ⟨rfl, ?_⟩
      rw [List.length_drop]
      dsimp only
      omega

/-- The digits before the point are read as one number with what stands behind it. -/
theorem readDecimal_wholePart {fraction : List Char} (h : AreDigits row.digits)
    (hfraction : AreDigits fraction) : readDecimal (row.wholePart ++ '.' :: fraction) =
      some ⟨Nat.ofDigitChars 10 (row.wholePart ++ fraction) 0, -(fraction.length : Int)⟩ := by
  have hpointed := readDecimal_pointed (areDigits_wholePart h) hfraction
    (Or.inl (wholePart_ne_nil row)) endsDigits_nil
  rw [List.append_nil] at hpointed
  rw [hpointed, readExponent, Option.map_some, Int.zero_sub]

/-- **A row written out is read back**, with the fraction digit that is always shown. -/
theorem exists_readDecimal_pointed (h : AreDigits row.digits) :
    ∃ k, readDecimal row.pointed = some (row.decimal.padded k) := by
  rw [pointed]
  split
  · next hempty =>
    -- the fraction digit is one more zero
    have hnil : row.fractionPart = [] := List.isEmpty_iff.mp hempty
    have hwritten := decimal_written row
    rw [hnil, List.append_nil] at hwritten
    have hzero : AreDigits ['0'] := areDigits_replicate_zero 1
    refine ⟨row.point.toNat - row.digits.length + 1, ?_⟩
    rw [readDecimal_wholePart h hzero, ← Decimal.padded_padded, ← hwritten,
      Nat.ofDigitChars_append, Decimal.padded, Nat.mul_comm]
    rfl
  · refine ⟨row.point.toNat - row.digits.length, ?_⟩
    rw [readDecimal_wholePart h (areDigits_fractionPart h), decimal_written]

/-- **A row written out is read back**, with a point only where it is needed. -/
theorem exists_readDecimal_plain (h : AreDigits row.digits) :
    ∃ k, readDecimal row.plain = some (row.decimal.padded k) := by
  refine ⟨row.point.toNat - row.digits.length, ?_⟩
  rw [plain]
  split
  · next hempty =>
    have hread := readDecimal_unpointed (areDigits_wholePart h) (wholePart_ne_nil row)
      endsDigits_nil nofun
    rw [List.append_nil] at hread
    rw [hread, readExponent, Option.map_some, ← decimal_written, List.isEmpty_iff.mp hempty,
      List.append_nil]
    rfl
  · rw [readDecimal_wholePart h (areDigits_fractionPart h), decimal_written]

/-- **A row written with an exponent is read back.** -/
theorem readDecimal_scientific (h : AreDigits row.digits) (hne : row.digits ≠ [])
    (hpoint : (row.point - 1).natAbs < 65536) :
    readDecimal row.scientific = some row.decimal := by
  have hends : EndsDigits ('e' :: exponentText (row.point - 1)) := by
    intro c hc
    cases hc
    rfl
  rw [scientific, decimal]
  match hdigits : row.digits, hne with
  | [digit], _ =>
    rw [hdigits] at h
    dsimp only
    rw [readDecimal_unpointed h (List.cons_ne_nil _ _) hends (by simp),
      readExponent_exponentText hpoint]
    rfl
  | digit :: next :: rest, _ =>
    rw [hdigits] at h
    have hwhole : AreDigits [digit] := h.sublist (List.Sublist.cons_cons _ (List.nil_sublist _))
    have hfraction : AreDigits (next :: rest) := h.sublist (List.sublist_cons_self _ _)
    have hread := readDecimal_pointed hwhole hfraction (Or.inl (List.cons_ne_nil _ _)) hends
    rw [readExponent_exponentText hpoint] at hread
    dsimp only
    refine hread.trans ?_
    rw [Option.map_some, List.singleton_append, List.length_cons (a := digit)]
    congr 2
    push_cast
    omega

/-- **A row in the general layout is read back.** -/
theorem exists_readDecimal_general (h : AreDigits row.digits)
    (hpoint : (row.point - 1).natAbs < 65536) :
    ∃ k, readDecimal row.general = some (row.decimal.padded k) := by
  rw [general]
  by_cases hmoderate : row.isModerate = true
  · rw [if_pos hmoderate]
    exact exists_readDecimal_pointed h
  · rw [if_neg hmoderate]
    have hne : row.digits ≠ [] := by
      intro hnil
      rw [isModerate, hnil] at hmoderate
      exact hmoderate rfl
    exact ⟨0, by rw [Decimal.padded_zero, readDecimal_scientific h hne hpoint]⟩

/-- Digits with a point among them are digits and a point. -/
theorem mem_append_point {whole fraction : List Char} {c : Char} (hwhole : AreDigits whole)
    (hfraction : AreDigits fraction) (hc : c ∈ whole ++ '.' :: fraction) :
    c.isDigit = true ∨ c = '.' := by
  rcases List.mem_append.mp hc with hc | hc
  · exact Or.inl (hwhole c hc)
  · rcases List.mem_cons.mp hc with rfl | hc
    · exact Or.inr rfl
    · exact Or.inl (hfraction c hc)

/-- The plain layout needs digits and a point only. -/
theorem mem_plain (h : AreDigits row.digits) {c : Char} (hc : c ∈ row.plain) :
    c.isDigit = true ∨ c = '.' := by
  rw [plain] at hc
  split at hc
  · exact Or.inl (areDigits_wholePart h c hc)
  · exact mem_append_point (areDigits_wholePart h) (areDigits_fractionPart h) hc

/-- The text of an exponent needs digits and its sign only. -/
theorem mem_exponentText {exponent : Int} {c : Char} (hc : c ∈ exponentText exponent) :
    c.isDigit = true ∨ c = '-' := by
  rw [exponentText] at hc
  split at hc
  · rcases List.mem_cons.mp hc with rfl | hc
    · exact Or.inr rfl
    · exact Or.inl (areDigits_toDigits _ c hc)
  · exact Or.inl (areDigits_toDigits _ c hc)

/-- The general layout needs digits, a point, the mark of an exponent and its sign only. -/
theorem mem_general (h : AreDigits row.digits) {c : Char} (hc : c ∈ row.general) :
    (c.isDigit = true ∨ c = '.') ∨ c = 'e' ∨ c = '-' := by
  rw [general] at hc
  split at hc
  · rw [pointed] at hc
    refine Or.inl (mem_append_point (areDigits_wholePart h) ?_ hc)
    split
    · exact areDigits_replicate_zero 1
    · exact areDigits_fractionPart h
  · rw [scientific, List.mem_append, List.mem_cons] at hc
    rcases hc with hc | rfl | hc
    · match hdigits : row.digits with
      | [] =>
        rw [hdigits] at hc
        cases hc
      | [digit] =>
        rw [hdigits] at hc h
        exact Or.inl (Or.inl (h c hc))
      | digit :: next :: rest =>
        rw [hdigits] at hc h
        exact Or.inl (mem_append_point (h.sublist (List.Sublist.cons_cons _ (List.nil_sublist _)))
          (h.sublist (List.sublist_cons_self _ _)) hc)
    · exact Or.inr (Or.inl rfl)
    · exact (mem_exponentText hc).elim (fun hdigit => Or.inl (Or.inl hdigit))
        fun hsign => Or.inr (Or.inr hsign)

end DigitRow

/-! ## Doubles -/

namespace Binary64

open Literal

/-- **The row of a finite magnitude is that of a decimal which rounds to it**, with its point within
the reach of exponents. -/
theorem digitRow_spec {m : Magnitude} (h : m.isFinite = true) :
    AreDigits (digitRow m).digits ∧ ((digitRow m).point - 1).natAbs < 65536 ∧
      (digitRow m).decimal.toMagnitude = m := by
  rw [digitRow]
  by_cases hzero : m.code = 0
  · rw [if_pos hzero]
    refine ⟨nofun, by decide, ?_⟩
    rw [Magnitude.eq_zero_of_code hzero]
    rfl
  · rw [if_neg hzero]
    have hpos : 0 < m.code := Nat.pos_of_ne_zero hzero
    have hround : m.shortestDecimal.toMagnitude = m := Magnitude.toMagnitude_shortestDecimal hpos h
    obtain ⟨hlower, hupper⟩ := Decimal.integralDigits_of_toMagnitude
      (x := m.shortestDecimal) (by rwa [hround]) (by rwa [hround])
    have hpoint : (DigitRow.ofDecimal m.shortestDecimal).point =
        m.shortestDecimal.integralDigits := rfl
    refine ⟨DigitRow.areDigits_ofDecimal _, by omega, ?_⟩
    obtain ⟨k, hk⟩ := DigitRow.exists_decimal_padded_eq m.shortestDecimal
    rw [← Decimal.toMagnitude_padded _ k, hk, hround]

/-- A digit is not white space. -/
theorem isBlank_of_isDigit {c : Char} (h : c.isDigit = true) : Text.isBlank c = false := by
  have hcode := Literal.toNat_of_isDigit h
  simp only [Text.isBlank, Bool.or_eq_false_iff, Bool.and_eq_false_iff, decide_eq_false_iff_not,
    beq_eq_false_iff_ne]
  omega

/-- Digits and a point are not white space. -/
theorem isBlank_of_isDigit_or_point {c : Char} (h : c.isDigit = true ∨ c = '.') :
    Text.isBlank c = false := by
  rcases h with hdigit | rfl
  · exact isBlank_of_isDigit hdigit
  · decide

/-- The text of a finite double has no white space if its layout writes none. -/
theorem isBlank_of_mem_render {layout : DigitRow → List Char}
    (hlayout : ∀ row, AreDigits row.digits → ∀ c ∈ layout row, Text.isBlank c = false)
    {x : Binary64} (h : x.isFinite = true) {c : Char} (hc : c ∈ (x.render layout).toList) :
    Text.isBlank c = false := by
  match x, h with
  | .signed negative m, h =>
    have hfinite : m.isFinite = true := h
    have hbody := hlayout (digitRow m) (digitRow_spec hfinite).1
    rw [render, if_pos hfinite, String.toList_ofList] at hc
    split at hc
    · rcases List.mem_cons.mp hc with rfl | hc
      · decide
      · exact hbody c hc
    · exact hbody c hc

/-- **The general text of a finite double has no white space.** -/
theorem isBlank_of_mem_generalText {x : Binary64} (h : x.isFinite = true) {c : Char}
    (hc : c ∈ x.generalText.toList) : Text.isBlank c = false := by
  refine isBlank_of_mem_render (fun row hrow c hc => ?_) h hc
  rcases DigitRow.mem_general hrow hc with hpointed | rfl | rfl
  · exact isBlank_of_isDigit_or_point hpointed
  · decide
  · decide

/-- **The plain text of a finite double has no white space.** -/
theorem isBlank_of_mem_plainText {x : Binary64} (h : x.isFinite = true) {c : Char}
    (hc : c ∈ x.plainText.toList) : Text.isBlank c = false :=
  isBlank_of_mem_render (fun _ hrow _ hc => isBlank_of_isDigit_or_point
    (DigitRow.mem_plain hrow hc)) h hc

end Binary64

namespace Literal

/-- A literal with a sign in front of a decimal is read as the number it rounds to. -/
theorem read_signed {body : List Char} {x : Decimal} (h : readDecimal body = some x)
    (negative : Bool) : read (String.ofList (if negative then '-' :: body else body)) =
      some (.signed negative x.toMagnitude) := by
  rw [read, String.toList_ofList]
  cases negative with
  | true =>
      rw [if_pos rfl, splitSign]
      dsimp only
      rw [h]
  | false =>
      rw [if_neg Bool.false_ne_true, splitSign_of_readDecimal h]
      dsimp only
      rw [h]

/-- A finite double is read back from its text if its layout is read back. -/
theorem readFinite_render {layout : DigitRow → List Char}
    (hlayout : ∀ row : DigitRow, AreDigits row.digits → (row.point - 1).natAbs < 65536 →
      ∃ k, readDecimal (layout row) = some (row.decimal.padded k))
    {x : Binary64} (h : x.isFinite = true) : readFinite (x.render layout) = some x := by
  match x, h with
  | .signed negative m, h =>
    obtain ⟨hdigits, hpoint, hround⟩ := Binary64.digitRow_spec (m := m) h
    obtain ⟨k, hread⟩ := hlayout _ hdigits hpoint
    have hfinite : m.isFinite = true := h
    rw [readFinite, Binary64.render, if_pos hfinite, read_signed hread,
      Decimal.toMagnitude_padded, hround, Option.filter_some, if_pos h]

/-- **A finite double is read back from its general text.** -/
theorem readFinite_generalText {x : Binary64} (h : x.isFinite = true) :
    readFinite x.generalText = some x :=
  readFinite_render (fun _ => DigitRow.exists_readDecimal_general) h

/-- **A finite double is read back from its plain text.** -/
theorem readFinite_plainText {x : Binary64} (h : x.isFinite = true) :
    readFinite x.plainText = some x :=
  readFinite_render (fun _ hdigits _ => DigitRow.exists_readDecimal_plain hdigits) h

end Literal

end CubeAssessment
