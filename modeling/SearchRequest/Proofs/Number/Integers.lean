import SearchRequest.Number.Words
import SearchRequest.Proofs.Number.Denotation

/-!
# The kinds of integer literals

* `Number.ofInt_of_lt`, `Number.ofInt_of_le`, `Number.ofInt_of_beyond` — the kind of an integer
  literal depends on its size only.
* `Number.rational?_ofInt` — a literal for which 64 bits are enough denotes its integer.
* `Number.ofWord_eq_ofInt` — nor does the kind depend on the type of a machine integer.
-/

namespace SearchRequest

namespace Number

variable {n : Int}

/-- Below two to the 63, an integer literal is signed. -/
theorem ofInt_of_lt (hlow : -9223372036854775808 ≤ n) (hhigh : n < 9223372036854775808) :
    ofInt n = .signed (Int64.ofInt n) := if_pos ⟨hlow, hhigh⟩

/-- From there on up to two to the 64, it is unsigned. -/
theorem ofInt_of_le (hlow : 9223372036854775808 ≤ n) (hhigh : n < 18446744073709551616) :
    ofInt n = .unsigned (UInt64.ofNat n.toNat) := by
  rw [ofInt, if_neg (by omega), if_pos (by omega)]

/-- Beyond these bounds, it is a floating-point number. -/
theorem ofInt_of_beyond (h : n < -9223372036854775808 ∨ 18446744073709551616 ≤ n) :
    ofInt n = .float (Binary64.ofDecimal (n < 0) n.natAbs 0) := by
  rw [ofInt, if_neg (by omega), if_neg (by omega)]

theorem ofInt_ne_float (hlow : -9223372036854775808 ≤ n) (hhigh : n < 18446744073709551616)
    (x : Binary64) : ofInt n ≠ .float x := by
  by_cases hsigned : n < 9223372036854775808
  · rw [ofInt_of_lt hlow hsigned]
    exact nofun
  · rw [ofInt_of_le (by omega) hhigh]
    exact nofun

theorem rational?_ofInt (hlow : -9223372036854775808 ≤ n) (hhigh : n < 18446744073709551616) :
    (ofInt n).rational? = some (n : ℚ) := by
  by_cases hsigned : n < 9223372036854775808
  · rw [ofInt_of_lt hlow hsigned, rational?, Int64.toInt_ofInt_of_le hlow (by omega)]
  · have hword : (UInt64.ofNat n.toNat).toNat = n.toNat :=
      UInt64.toNat_ofNat_of_lt' (show n.toNat < 2 ^ 64 by omega)
    rw [ofInt_of_le (by omega) hhigh, rational?, hword]
    have hcast : ((n.toNat : Int) : ℚ) = n := by rw [Int.toNat_of_nonneg (by omega)]
    exact congrArg some hcast

end Number

namespace WordType

/-- No machine integer needs more than 64 bits. -/
theorem Holds.bounds {t : WordType} {n : Int} (h : t.Holds n) :
    -9223372036854775808 ≤ n ∧ n < 18446744073709551616 := by
  obtain ⟨isSigned, width⟩ := t
  obtain ⟨hlow, hhigh⟩ := h
  cases isSigned <;> cases width <;>
    simp [least, bound, WordWidth.bits] at hlow hhigh <;> omega

/-- An integer of a type that has signed integers only is below two to the 63. -/
theorem Holds.lt_of_fitsSigned {t : WordType} {n : Int} (h : t.Holds n) (ht : t.fitsSigned = true) :
    n < 9223372036854775808 := by
  obtain ⟨isSigned, width⟩ := t
  obtain ⟨-, hhigh⟩ := h
  cases isSigned <;> cases width <;>
    simp [fitsSigned, bound, WordWidth.bits] at ht hhigh <;> omega

end WordType

/-- Every integer that does not need more is a machine integer. -/
theorem Word.exists_value_eq {n : Int} (hlow : -9223372036854775808 ≤ n)
    (hhigh : n < 18446744073709551616) : ∃ w : Word, w.value = n := by
  by_cases hsigned : n < 9223372036854775808
  · exact ⟨⟨⟨true, .double⟩, n, hlow, hsigned⟩, rfl⟩
  · have hnonneg : 0 ≤ n := by omega
    exact ⟨⟨⟨false, .double⟩, n, hnonneg, hhigh⟩, rfl⟩

/-- The literal for a machine integer depends on the integer only. -/
theorem Number.ofWord_eq_ofInt (w : Word) : ofWord w = ofInt w.value := by
  obtain ⟨hlow, hhigh⟩ := w.holds.bounds
  unfold ofWord
  split
  · next ht => rw [ofInt_of_lt hlow (w.holds.lt_of_fitsSigned ht)]
  · split
    · next hlt => rw [ofInt_of_lt hlow hlt]
    · rw [ofInt_of_le (by omega) hhigh]

end SearchRequest
