import SearchRequest.Proofs.Json.Numerals
import SearchRequest.Proofs.Number.FloatReaders
import SearchRequest.Proofs.Number.Integers

/-!
# Numbers as they are written

A number in a text is a sign, whole digits without a zero in front, a fraction and a power of ten.

* `Json.Numeral` — the grammar; `Json.Numeral.chars`: the characters.
* `Json.Numeral.draft` — the literal that is meant: an integer where 64 bits are enough, and else a
  floating-point number, unless it is too large for one.
* `Json.Numeral.float_exact`, `Json.Numeral.float_quick` — the exact reader finds the nearest
  floating-point number, and the quick one does if there are few digits.
* `Json.Numeral.leaf_chars` — a numeral is read as the literal that is meant.
-/

namespace SearchRequest

namespace Json

/-! ## The grammar -/

/-- The sign of a power of ten. -/
inductive PowerMark where
  /-- No sign. -/
  | none
  /-- A plus sign. -/
  | plus
  /-- A minus sign. -/
  | minus
  deriving DecidableEq, Repr

/-- A power of ten as it is written. -/
structure Power where
  /-- Whether its letter is a capital. -/
  capital : Bool
  /-- Its sign. -/
  mark : PowerMark
  /-- Its digits. -/
  digits : List Char
  /-- They are digits. -/
  isDigit : ∀ c ∈ digits, c.isDigit = true
  /-- There are some. -/
  ne_nil : digits ≠ []

/-- A number as it is written. -/
structure Numeral where
  /-- Whether there is a minus sign. -/
  negative : Bool
  /-- The digits before the point. -/
  whole : List Char
  /-- The digits after the point, if there is one. -/
  fraction : List Char
  /-- The power of ten, if there is one. -/
  power : Option Power
  /-- Digits stand before the point. -/
  isDigit_whole : ∀ c ∈ whole, c.isDigit = true
  /-- There are some. -/
  whole_ne_nil : whole ≠ []
  /-- A zero in front stands alone. -/
  whole_zero : whole.head? = some '0' → whole = ['0']
  /-- Digits stand after the point. -/
  isDigit_fraction : ∀ c ∈ fraction, c.isDigit = true

/-- The characters of a sign. -/
def PowerMark.chars : PowerMark → List Char
  | none => []
  | plus => ['+']
  | minus => ['-']

namespace Power

/-- The letter in front. -/
def letter (p : Power) : Char := if p.capital then 'E' else 'e'

/-- The characters of a power of ten. -/
def chars (p : Power) : List Char := p.letter :: (p.mark.chars ++ p.digits)

/-- The exponent. -/
def value (p : Power) : Int :=
  if p.mark = .minus then -(Decimal.value p.digits : Int) else Decimal.value p.digits

theorem letter_eq (p : Power) : p.letter = 'e' ∨ p.letter = 'E' := by
  unfold letter
  split
  · exact .inr rfl
  · exact .inl rfl

end Power

namespace Numeral

variable (m : Numeral)

/-- The characters after the whole digits. -/
def tail : List Char :=
  (if m.fraction = [] then [] else '.' :: m.fraction) ++
    match m.power with
    | some p => p.chars
    | none => []

/-- The characters of a numeral. -/
def chars : List Char := (if m.negative then ['-'] else []) ++ (m.whole ++ m.tail)

/-- Neither a point nor a power of ten is written. -/
def IsInteger : Prop := m.fraction = [] ∧ m.power = none

instance : Decidable m.IsInteger :=
  inferInstanceAs (Decidable (_ ∧ _))

/-- The integer before the point. -/
def integer : Int :=
  if m.negative then -(Decimal.value m.whole : Int) else Decimal.value m.whole

/-- An integer for which 64 bits are enough is written, and it is not minus zero. -/
def FitsWord : Prop :=
  m.IsInteger ∧ -9223372036854775808 ≤ m.integer ∧ m.integer < 18446744073709551616 ∧
    ¬(m.negative = true ∧ m.integer = 0)

instance : Decidable m.FitsWord :=
  inferInstanceAs (Decidable (_ ∧ _))

/-- The power of ten that is written. -/
def exponent : Int :=
  match m.power with
  | some p => p.value
  | none => 0

/-- The floating-point number that is nearest to the number that is written. -/
def nearest : Binary64 :=
  Binary64.ofDecimal m.negative (Decimal.value (m.whole ++ m.fraction))
    (m.exponent - m.fraction.length)

/-- The floating-point number that is found: an integer with a size of 64 bits is converted, and
every other number is read as a decimal. -/
def float (ρ : FloatReader) : Binary64 :=
  if m.IsInteger ∧ Decimal.value m.whole < 18446744073709551616 then m.nearest
  else ρ.read m.negative m.whole m.fraction m.exponent

/-- What is meant: an integer if 64 bits are enough for it, and else a floating-point number, if one
is large enough. -/
def draft (ρ : FloatReader) : Draft :=
  if m.FitsWord then .number (.ofInt m.integer)
  else if (m.float ρ).isFinite then .number (.float (m.float ρ))
  else .flawed ⟨.malformed, none, .malformed⟩

variable {m} {ρ : FloatReader}

theorem draft_of_fitsWord (h : m.FitsWord) : m.draft ρ = .number (.ofInt m.integer) := if_pos h

theorem draft_of_not_fitsWord (h : ¬m.FitsWord) :
    m.draft ρ =
      if (m.float ρ).isFinite then .number (.float (m.float ρ))
      else .flawed ⟨.malformed, none, .malformed⟩ := if_neg h

theorem natAbs_integer : m.integer.natAbs = Decimal.value m.whole := by
  unfold integer
  split <;> omega

theorem float_of_not_isInteger (h : ¬m.IsInteger) :
    m.float ρ = ρ.read m.negative m.whole m.fraction m.exponent :=
  if_neg fun hword => h hword.1

theorem nearest_of_isInteger (h : m.IsInteger) :
    m.nearest = Binary64.ofDecimal m.negative (Decimal.value m.whole) 0 := by
  simp [nearest, exponent, h.1, h.2]

/-- The exact reader finds the nearest number. -/
@[simp] theorem float_exact (m : Numeral) : m.float .exact = m.nearest := by
  rw [float]
  split <;> rfl

/-- With few digits and a small power of ten, the quick reader finds the nearest number too. -/
theorem float_quick (hvalue : Decimal.value (m.whole ++ m.fraction) < 2 ^ 53)
    (hscale : (m.exponent - m.fraction.length).natAbs ≤ 22)
    (hexponent : m.exponent.natAbs ≤ 2147483647) : m.float .quick = m.nearest := by
  unfold float
  split
  · rfl
  · exact FloatReader.quick_read hvalue hscale hexponent m.negative

end Numeral

end Json

/-! ## Numerals are read -/

namespace Json.Numeral

open Json.Parser

variable {ρ : FloatReader} (m : Numeral) {rest : List Char}

theorem floating_eq (x : Binary64) (rest : List Char) :
    floating x rest =
      (if x.isFinite then .number (.float x) else .flawed ⟨.malformed, none, .malformed⟩,
        some rest) := by
  cases x <;> rfl

/-- A numeral that is no integer is read as a floating-point number. -/
theorem fractional_eq_draft (h : ¬m.IsInteger) :
    fractional ρ m.negative m.whole m.fraction m.exponent rest = (m.draft ρ, some rest) := by
  rw [fractional, floating_eq, draft_of_not_fitsWord fun hword => h hword.1,
    float_of_not_isInteger h]

theorem exponent_eq_draft {p : Power} (hp : m.power = some p) (hr : EndsNumber rest) :
    Parser.exponent ρ m.negative m.whole m.fraction (p.mark.chars ++ p.digits ++ rest) =
      (m.draft ρ, some rest) := by
  have hinteger : ¬m.IsInteger := by simp [IsInteger, hp]
  have hmark : p.mark.chars = (if decide (p.mark = .minus) then ['-'] else []) ∨
      p.mark.chars = ['+'] ∧ decide (p.mark = .minus) = false := by
    cases p.mark with
    | none => exact .inl rfl
    | plus => exact .inr ⟨rfl, rfl⟩
    | minus => exact .inl rfl
  have hexponent : m.exponent = p.value := by rw [exponent, hp]
  rw [exponent_append _ hmark p.isDigit p.ne_nil hr.stopsDigits, ← m.fractional_eq_draft hinteger,
    hexponent, Power.value]
  simp only [decide_eq_true_eq]

/-- An integer with a size of 64 bits is read as an integer if it fits, and else as the nearest
floating-point number. -/
theorem integral_eq_draft_of_lt (h : m.IsInteger)
    (hlt : Decimal.value m.whole < 18446744073709551616) :
    integral ρ m.negative m.whole rest = (m.draft ρ, some rest) := by
  have hfloat : m.float ρ = Binary64.ofDecimal m.negative (Decimal.value m.whole) 0 :=
    (if_pos ⟨h, hlt⟩).trans (nearest_of_isInteger h)
  unfold integral
  by_cases hzero : m.negative = true ∧ m.integer = 0
  · have hvalue : Decimal.value m.whole = 0 := by simpa [integer, hzero.1] using hzero.2
    have hword : ¬m.FitsWord := fun hword => hword.2.2.2 hzero
    rw [hvalue, hzero.1, Binary64.ofDecimal_zero] at hfloat
    have hfinite : (Binary64.zero true).isFinite = true := rfl
    rw [draft_of_not_fitsWord hword, hfloat, if_pos hfinite, hvalue, hzero.1]
    rfl
  · have hcond : (m.negative && decide (Decimal.value m.whole = 0)) = false := by
      cases hneg : m.negative <;> simp_all [integer]
    have hinteger : (if m.negative = true then -(Decimal.value m.whole : Int)
        else Decimal.value m.whole) = m.integer := rfl
    simp only [hcond, hinteger, Bool.false_eq_true, if_false, if_pos hlt]
    by_cases hlow : -9223372036854775808 ≤ m.integer
    · have hhigh : m.integer < 18446744073709551616 := by
        unfold integer
        split <;> omega
      rw [draft_of_fitsWord ⟨h, hlow, hhigh, hzero⟩]
      by_cases hsigned : m.integer < 9223372036854775808
      · rw [Number.ofInt_of_lt hlow hsigned]
      · rw [Number.ofInt_of_le (by omega) hhigh]
    · have hword : ¬m.FitsWord := fun hword => hlow hword.2.1
      have hsign : decide (m.integer < 0) = m.negative := by
        unfold integer at hlow ⊢
        cases m.negative <;> simp at hlow ⊢
        omega
      rw [draft_of_not_fitsWord hword, Number.ofInt_of_beyond (by omega), natAbs_integer, hsign,
        hfloat]
      exact floating_eq _ rest

/-- An integer is read as an integer if it fits, and else as a floating-point number. -/
theorem integral_eq_draft (h : m.IsInteger) :
    integral ρ m.negative m.whole rest = (m.draft ρ, some rest) := by
  by_cases hlt : Decimal.value m.whole < 18446744073709551616
  · exact m.integral_eq_draft_of_lt h hlt
  · have hvalue : (m.negative && decide (Decimal.value m.whole = 0)) = false := by
      simp only [Bool.and_eq_false_iff, decide_eq_false_iff_not]
      omega
    have hword : ¬m.FitsWord := by
      rintro ⟨-, hlow, hhigh, -⟩
      have hsize : m.integer.natAbs = Decimal.value m.whole := natAbs_integer
      omega
    have hfloat : m.float ρ = ρ.read m.negative m.whole [] 0 := by
      rw [float, if_neg fun hword => hlt hword.2, exponent, h.1, h.2]
    rw [integral]
    simp only [hvalue, Bool.false_eq_true, if_false, if_neg hlt]
    rw [fractional, floating_eq, draft_of_not_fitsWord hword, hfloat]

theorem stopsDigits_tail (hr : EndsNumber rest) : StopsDigits (m.tail ++ rest) := by
  unfold tail
  by_cases hfraction : m.fraction = []
  · cases m.power with
    | none => simpa [hfraction] using hr.stopsDigits
    | some p =>
      have hletter : p.letter.isDigit = false := by
        rcases p.letter_eq with h | h <;> rw [h] <;> rfl
      simpa [hfraction, Power.chars] using stopsDigits_cons hletter _
  · simpa [hfraction] using stopsDigits_cons rfl _

theorem afterWhole_tail (hr : EndsNumber rest) :
    afterWhole ρ m.negative m.whole (m.tail ++ rest) = (m.draft ρ, some rest) := by
  unfold tail
  by_cases hfraction : m.fraction = []
  · cases hpower : m.power with
    | none =>
      rw [if_pos hfraction, List.append_nil, List.nil_append, afterWhole_of_endsNumber hr]
      exact m.integral_eq_draft ⟨hfraction, hpower⟩
    | some p =>
      have hread := m.exponent_eq_draft (ρ := ρ) hpower hr
      rw [hfraction] at hread
      rw [if_pos hfraction, List.nil_append]
      exact (afterWhole_exponent p.letter_eq).trans hread
  · rw [if_neg hfraction, List.cons_append, List.cons_append, List.append_assoc]
    cases hpower : m.power with
    | none =>
      have hexponent : m.exponent = 0 := by rw [exponent, hpower]
      have hread : fractional ρ m.negative m.whole m.fraction m.exponent rest =
          (m.draft ρ, some rest) := m.fractional_eq_draft fun h => hfraction h.1
      rw [hexponent] at hread
      rw [List.nil_append, afterWhole_point m.isDigit_fraction hfraction hr, hread]
    | some p =>
      exact (afterWhole_point_exponent m.isDigit_fraction hfraction p.letter_eq).trans
        (m.exponent_eq_draft hpower hr)

/-- A numeral is read as the literal that is meant. -/
theorem leaf_chars (hr : EndsNumber rest) : leaf ρ (m.chars ++ rest) = (m.draft ρ, some rest) := by
  obtain ⟨c, cs, hwhole⟩ := List.exists_cons_of_ne_nil m.whole_ne_nil
  have hhead : ∃ c ∈ (m.whole ++ (m.tail ++ rest)).head?, c.isDigit = true :=
    ⟨c, by rw [hwhole]; rfl, m.isDigit_whole c (by rw [hwhole]; simp)⟩
  rw [chars, List.append_assoc, List.append_assoc, leaf_signed _ hhead,
    number_append m.isDigit_whole m.whole_ne_nil m.whole_zero (m.stopsDigits_tail hr)]
  exact m.afterWhole_tail hr

end Json.Numeral

end SearchRequest
