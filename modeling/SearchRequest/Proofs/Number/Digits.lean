import Mathlib.Tactic
import SearchRequest.Number.Decimal

/-!
# What decimal digits denote

* `Decimal.value_digits` — the digits of a number denote it.
* `Decimal.isDigit_of_mem_digits`, `Decimal.head_digits_ne_zero` — they are digits, and a positive
  number does not start with a zero.
* `Decimal.digits_mul_pow` — a factor of ten is a zero at the end.
-/

namespace SearchRequest.Decimal

/-! ## Single digits -/

theorem toNat_digit {d : Nat} (h : d < 10) : (digit d).toNat = 48 + d := by
  interval_cases d <;> rfl

@[simp] theorem digitValue_digit {d : Nat} (h : d < 10) : digitValue (digit d) = d := by
  rw [digitValue, toNat_digit h]
  omega

theorem isDigit_digit {d : Nat} (h : d < 10) : (digit d).isDigit = true := by
  interval_cases d <;> decide

theorem digit_ne_zero {d : Nat} (h : d < 10) (hd : d ≠ 0) : digit d ≠ '0' := by
  intro hc
  have h48 : (digit d).toNat = 48 := by rw [hc]; rfl
  rw [toNat_digit h] at h48
  omega

/-! ## The digits of a number -/

theorem digits_of_lt {n : Nat} (h : n < 10) : digits n = [digit n] := by
  rw [digits, if_pos h]

theorem digits_of_ge {n : Nat} (h : 10 ≤ n) :
    digits n = digits (n / 10) ++ [digit (n % 10)] := by
  rw [digits, if_neg (by omega)]

theorem isDigit_of_mem_digits {n : Nat} {c : Char} (h : c ∈ digits n) : c.isDigit = true := by
  induction n using Nat.strong_induction_on with
  | _ n ih =>
    by_cases hn : n < 10
    · rw [digits_of_lt hn, List.mem_singleton] at h
      rw [h]
      exact isDigit_digit hn
    · rw [digits_of_ge (by omega), List.mem_append, List.mem_singleton] at h
      rcases h with h | h
      · exact ih (n / 10) (by omega) h
      · rw [h]
        exact isDigit_digit (by omega)

theorem digits_ne_nil (n : Nat) : digits n ≠ [] := by
  by_cases hn : n < 10
  · simp [digits_of_lt hn]
  · simp [digits_of_ge (Nat.le_of_not_lt hn)]

theorem head_digits_ne_zero {n : Nat} (h : n ≠ 0) : (digits n).head? ≠ some '0' := by
  induction n using Nat.strong_induction_on with
  | _ n ih =>
    by_cases hn : n < 10
    · rw [digits_of_lt hn]
      simpa using digit_ne_zero hn h
    · rw [digits_of_ge (by omega), List.head?_append_of_ne_nil _ (digits_ne_nil _)]
      exact ih (n / 10) (by omega) (by omega)

/-! ## What digits denote -/

theorem value_append (xs ys : List Char) :
    value (xs ++ ys) = value xs * 10 ^ ys.length + value ys := by
  induction ys using List.reverseRecOn with
  | nil => simp [value]
  | append_singleton ys y ih =>
    have hsnoc : ∀ zs : List Char, value (zs ++ [y]) = 10 * value zs + digitValue y := by
      intro zs
      simp [value]
    rw [← List.append_assoc, hsnoc, hsnoc, ih, List.length_append, List.length_singleton, pow_succ]
    ring

@[simp] theorem value_zeros (n : Nat) : value (List.replicate n '0') = 0 := by
  induction n with
  | zero => rfl
  | succ n ih =>
    rw [List.replicate_succ', value_append, ih]
    rfl

/-- The digits of a number denote it. -/
@[simp] theorem value_digits (n : Nat) : value (digits n) = n := by
  induction n using Nat.strong_induction_on with
  | _ n ih =>
    by_cases hn : n < 10
    · rw [digits_of_lt hn]
      simp [value, digitValue_digit hn]
    · have hlast : value [digit (n % 10)] = n % 10 := by
        simp [value, digitValue_digit (Nat.mod_lt n (by norm_num))]
      rw [digits_of_ge (by omega), value_append, ih (n / 10) (by omega), hlast,
        List.length_singleton]
      omega

/-- A factor of ten is a zero at the end. -/
theorem digits_mul_pow {n : Nat} (h : n ≠ 0) (j : Nat) :
    digits (n * 10 ^ j) = digits n ++ List.replicate j '0' := by
  induction j with
  | zero => simp
  | succ j ih =>
    have hpos : 0 < n * 10 ^ j := Nat.mul_pos (Nat.pos_of_ne_zero h) (by positivity)
    have hten : n * 10 ^ (j + 1) = n * 10 ^ j * 10 := by ring
    have hzero : digit 0 = '0' := rfl
    rw [hten, digits_of_ge (by omega), Nat.mul_div_cancel _ (by norm_num), ih, Nat.mul_mod_left,
      hzero, List.append_assoc, ← List.replicate_succ']

theorem length_digits_mul_pow {n : Nat} (h : n ≠ 0) (j : Nat) :
    (digits (n * 10 ^ j)).length = (digits n).length + j := by
  rw [digits_mul_pow h, List.length_append, List.length_replicate]

end SearchRequest.Decimal
