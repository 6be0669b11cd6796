import Mathlib.Data.List.TakeWhile
import SearchRequest.Json.Parser

/-!
# Numbers in JSON text

* `Number.Faithful` — the literals that a text is read as.
* `Json.Parser.Delimited` — what may follow a leaf in a text.
* `Json.Parser.EndsNumber` — what does not go on with a number.
* `Json.Parser.number_append`, `Json.Parser.exponent_append`, `Json.Parser.afterWhole_point` — the
  parts of a number, one after the other.
-/

namespace SearchRequest

/-- A literal is of the kind that a text is read as: a floating-point number is finite, and an
unsigned integer is too large for a signed one. -/
def Number.Faithful (n : Number) : Prop :=
  n.isFinite = true ∧ ∀ m, n = .unsigned m → 9223372036854775808 ≤ m.toNat

theorem Number.Faithful.isFinite {n : Number} (h : n.Faithful) : n.isFinite = true := h.1

theorem Number.faithful_signed (n : Int64) : (Number.signed n).Faithful :=
  ⟨rfl, fun _ h => Number.noConfusion h⟩

theorem Number.faithful_unsigned {n : UInt64} (h : 9223372036854775808 ≤ n.toNat) :
    (Number.unsigned n).Faithful :=
  ⟨rfl, fun _ hm => Number.unsigned.inj hm ▸ h⟩

theorem Number.faithful_float {x : Binary64} (h : x.isFinite = true) : (Number.float x).Faithful :=
  ⟨h, fun _ hm => Number.noConfusion hm⟩

namespace Json.Parser

/-- What may follow a leaf: a comma, a closing bracket, or the end of the text. -/
def Delimited (rest : List Char) : Prop :=
  ∀ c ∈ rest.head?, c = ',' ∨ c = ']' ∨ c = '\x7d'

/-- What does not go on with a digit. -/
def StopsDigits (rest : List Char) : Prop := ∀ c ∈ rest.head?, c.isDigit = false

theorem Delimited.stopsDigits {rest : List Char} (h : Delimited rest) : StopsDigits rest := by
  intro c hc
  rcases h c hc with rfl | rfl | rfl <;> rfl

/-- What does not go on with a number. -/
def EndsNumber (rest : List Char) : Prop :=
  ∀ c ∈ rest.head?, c.isDigit = false ∧ c ≠ '.' ∧ c ≠ 'e' ∧ c ≠ 'E'

theorem endsNumber_nil : EndsNumber [] := by simp [EndsNumber]

theorem EndsNumber.stopsDigits {rest : List Char} (h : EndsNumber rest) : StopsDigits rest :=
  fun c hc => (h c hc).1

theorem Delimited.endsNumber {rest : List Char} (h : Delimited rest) : EndsNumber rest := by
  intro c hc
  rcases h c hc with rfl | rfl | rfl <;> decide

theorem stopsDigits_cons {c : Char} (h : c.isDigit = false) (rest : List Char) :
    StopsDigits (c :: rest) := by
  intro d hd
  cases hd
  exact h

/-! ## Runs of digits -/

variable {ds rest : List Char}

theorem StopsDigits.takeWhile (h : StopsDigits rest) : rest.takeWhile Char.isDigit = [] := by
  cases rest with
  | nil => rfl
  | cons c cs => simp [h c rfl]

theorem StopsDigits.dropWhile (h : StopsDigits rest) : rest.dropWhile Char.isDigit = rest := by
  cases rest with
  | nil => rfl
  | cons c cs => simp [h c rfl]

theorem takeWhile_digits (hd : ∀ c ∈ ds, c.isDigit = true) (hr : StopsDigits rest) :
    (ds ++ rest).takeWhile Char.isDigit = ds := by
  rw [List.takeWhile_append_of_pos hd, hr.takeWhile, List.append_nil]

theorem dropWhile_digits (hd : ∀ c ∈ ds, c.isDigit = true) (hr : StopsDigits rest) :
    (ds ++ rest).dropWhile Char.isDigit = rest := by
  rw [List.dropWhile_append_of_pos hd, hr.dropWhile]

/-! ## The parts of a number -/

variable {ρ : FloatReader} {negative : Bool} {whole : List Char}

theorem number_append (hd : ∀ c ∈ ds, c.isDigit = true) (hne : ds ≠ [])
    (hzero : ds.head? = some '0' → ds = ['0']) (hr : StopsDigits rest) :
    number ρ negative (ds ++ rest) = afterWhole ρ negative ds rest := by
  simp only [number, takeWhile_digits hd hr, dropWhile_digits hd hr]
  split
  · exact absurd rfl hne
  · next c cs =>
    have := hzero rfl
    simp at this
  · rfl

/-- What an exponent spells: a mark, with `down` for a minus sign, and a power. -/
theorem exponent_append (down : Bool) {fraction mark power : List Char}
    (hmark : mark = (if down then ['-'] else []) ∨ mark = ['+'] ∧ down = false)
    (hd : ∀ c ∈ power, c.isDigit = true) (hne : power ≠ []) (hr : StopsDigits rest) :
    exponent ρ negative whole fraction (mark ++ power ++ rest) =
      fractional ρ negative whole fraction
        (if down then -(Decimal.value power : Int) else Decimal.value power) rest := by
  obtain ⟨c, cs, rfl⟩ := List.exists_cons_of_ne_nil hne
  have hc : c.isDigit = true := hd c (by simp)
  have hminus : c ≠ '-' := by rintro rfl; cases hc
  have hplus : c ≠ '+' := by rintro rfl; cases hc
  have htake := takeWhile_digits hd hr
  have hdrop := dropWhile_digits hd hr
  rw [List.cons_append] at htake hdrop
  rcases hmark with rfl | ⟨rfl, rfl⟩
  · cases down <;> simp [exponent, hminus, hplus, htake, hdrop]
  · simp [exponent, htake, hdrop]

theorem afterWhole_point (hd : ∀ c ∈ ds, c.isDigit = true) (hne : ds ≠ [])
    (hr : EndsNumber rest) :
    afterWhole ρ negative whole ('.' :: (ds ++ rest)) = fractional ρ negative whole ds 0 rest := by
  simp only [afterWhole, takeWhile_digits hd hr.stopsDigits, dropWhile_digits hd hr.stopsDigits,
    List.isEmpty_iff, hne, if_false]
  split
  · next r => exact absurd rfl (hr 'e' rfl).2.2.1
  · next r => exact absurd rfl (hr 'E' rfl).2.2.2
  · rfl

theorem afterWhole_exponent {letter : Char} (hletter : letter = 'e' ∨ letter = 'E') :
    afterWhole ρ negative whole (letter :: rest) = exponent ρ negative whole [] rest := by
  rcases hletter with rfl | rfl <;> rfl

theorem afterWhole_point_exponent {letter : Char} (hd : ∀ c ∈ ds, c.isDigit = true)
    (hne : ds ≠ []) (hletter : letter = 'e' ∨ letter = 'E') :
    afterWhole ρ negative whole ('.' :: (ds ++ letter :: rest)) =
      exponent ρ negative whole ds rest := by
  have hr : StopsDigits (letter :: rest) := by
    rcases hletter with rfl | rfl <;> exact stopsDigits_cons rfl rest
  simp only [afterWhole, takeWhile_digits hd hr, dropWhile_digits hd hr, List.isEmpty_iff, hne,
    if_false]
  rcases hletter with rfl | rfl <;> rfl

theorem afterWhole_of_endsNumber (hr : EndsNumber rest) :
    afterWhole ρ negative whole rest = integral ρ negative whole rest := by
  unfold afterWhole
  split
  · next r => exact absurd rfl (hr '.' rfl).2.1
  · next r => exact absurd rfl (hr 'e' rfl).2.2.1
  · next r => exact absurd rfl (hr 'E' rfl).2.2.2
  · rfl

theorem leaf_of_isDigit {c : Char} {cs : List Char} (h : c.isDigit = true) :
    leaf ρ (c :: cs) = number ρ false (c :: cs) := by
  have hne : ∀ d : Char, d.isDigit = false → c ≠ d := by
    rintro d hd rfl
    rw [hd] at h
    cases h
  simp [leaf, h, hne '"' rfl, hne 't' rfl, hne 'f' rfl, hne 'n' rfl, hne '-' rfl]

/-- A number is read after its sign. -/
theorem leaf_signed (negative : Bool) {cs : List Char}
    (h : ∃ c ∈ cs.head?, c.isDigit = true) :
    leaf ρ ((if negative then ['-'] else []) ++ cs) = number ρ negative cs := by
  obtain ⟨c, hc, hdigit⟩ := h
  cases cs with
  | nil => cases hc
  | cons d ds =>
    cases hc
    cases negative
    · simp [leaf_of_isDigit hdigit]
    · simp [leaf]

end Json.Parser

end SearchRequest
