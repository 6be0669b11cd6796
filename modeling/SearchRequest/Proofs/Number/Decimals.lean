import SearchRequest.Number.Basic
import SearchRequest.Proofs.Number.Digits
import SearchRequest.Proofs.Number.Rounding

/-!
# Decimals read as numbers of the 64-bit format

* `Binary64.ofDecimal_mul_pow` — zeros at the end of the digits and the exponent trade places.
* `Shortest.ofDecimal_ofPlace` — the shortest decimal for a number is read as that number.
-/

namespace SearchRequest

namespace Binary64

/-! ## Fractions -/

theorem ofPlace_of_le (s : Bool) {k : Nat} (h : Precision.binary64.placeCount ≤ k) :
    ofPlace s k = .infinite s := by
  have hcount : Precision.binary64.placeCount = 9218868437227405312 := rfl
  rw [ofPlace, dif_neg (by omega)]

@[simp] theorem ofPlace_val (s : Bool) (k : Fin 9218868437227405312) :
    ofPlace s k.val = .finite s k := by
  rw [ofPlace, dif_pos k.isLt]

/-- Fractions of one value are read alike. -/
theorem ofRatio_congr (s : Bool) {n d n' d' : Nat} (hd : 0 < d) (hd' : 0 < d')
    (h : n * d' = n' * d) : ofRatio s n d = ofRatio s n' d' := by
  rw [ofRatio, ofRatio, ← Precision.nearestPlace_mul _ hd' n d, h, Nat.mul_comm d d',
    Precision.nearestPlace_mul _ hd n' d']

theorem ofRatio_of_overflow (s : Bool) {n d b : Nat} (hd : 0 < d) (hb : 1024 ≤ b)
    (h : d * 2 ^ b ≤ n) : ofRatio s n d = .infinite s := by
  refine ofPlace_of_le s (Precision.placeCount_le_nearestPlace _ hd (by decide) ?_)
  have hexp : Precision.binary64.fractionBits + Precision.binary64.blocks - 1 ≤
      b + Precision.binary64.quantumExponent := by
    show 52 + 2047 - 1 ≤ b + 1074
    omega
  calc d * 2 ^ (Precision.binary64.fractionBits + Precision.binary64.blocks - 1)
      ≤ d * 2 ^ (b + Precision.binary64.quantumExponent) :=
        Nat.mul_le_mul_left _ (Nat.pow_le_pow_right (by norm_num) hexp)
    _ = d * 2 ^ b * 2 ^ Precision.binary64.quantumExponent := by rw [Nat.pow_add, Nat.mul_assoc]
    _ ≤ n * 2 ^ Precision.binary64.quantumExponent := Nat.mul_le_mul_right _ h

/-! ## Decimals -/

@[simp] theorem ofDecimal_zero (s : Bool) (e : Int) : ofDecimal s 0 e = zero s := by
  simp [ofDecimal, decimalRatio]

/-- A decimal that is not far too small is read as the fraction that it denotes. -/
theorem ofDecimal_eq_ofRatio (s : Bool) {m : Nat} {e : Int} (hm : m ≠ 0)
    (h : -400 ≤ (Decimal.digits m).length + e) :
    ofDecimal s m e = ofRatio s (m * 10 ^ e.toNat) (10 ^ (-e).toNat) := by
  by_cases hbig : 400 < e
  · have hneg : (-e).toNat = 0 := by omega
    rw [hneg, pow_zero, ofRatio_of_overflow (b := 3 * e.toNat) s Nat.one_pos (by omega)]
    · simp [ofDecimal, decimalRatio, hm, hbig]
    · calc 1 * 2 ^ (3 * e.toNat) = (2 ^ 3) ^ e.toNat := by rw [Nat.one_mul, Nat.pow_mul]
        _ ≤ 10 ^ e.toNat := Nat.pow_le_pow_left (by norm_num) _
        _ ≤ m * 10 ^ e.toNat := Nat.le_mul_of_pos_left _ (Nat.pos_of_ne_zero hm)
  · have hlen : ¬ (Decimal.digits m).length + e < -400 := by omega
    by_cases he : 0 ≤ e
    · have hneg : (-e).toNat = 0 := by omega
      simp [ofDecimal, decimalRatio, hm, hbig, hlen, he, hneg]
    · have hpos : e.toNat = 0 := by omega
      simp [ofDecimal, decimalRatio, hm, hbig, hlen, he, hpos]

theorem ofDecimal_of_underflow (s : Bool) {m : Nat} {e : Int}
    (h : (Decimal.digits m).length + e < -400) : ofDecimal s m e = zero s := by
  have hbig : ¬ 400 < e := by omega
  by_cases hm : m = 0 <;> simp [ofDecimal, decimalRatio, hm, hbig, h]

/-- Zeros at the end of the digits and the exponent trade places. -/
theorem ofDecimal_mul_pow (s : Bool) (m j : Nat) (e : Int) :
    ofDecimal s (m * 10 ^ j) e = ofDecimal s m (e + j) := by
  rcases Nat.eq_zero_or_pos m with rfl | hpos
  · simp
  have hm : m ≠ 0 := hpos.ne'
  have hlen := Decimal.length_digits_mul_pow hm j
  by_cases hsmall : (Decimal.digits m).length + (e + j) < -400
  · rw [ofDecimal_of_underflow s hsmall, ofDecimal_of_underflow s (by rw [hlen]; omega)]
  · rw [ofDecimal_eq_ofRatio s hm (by omega),
      ofDecimal_eq_ofRatio s (Nat.mul_ne_zero hm (by positivity)) (by rw [hlen]; omega)]
    refine ofRatio_congr s (by positivity) (by positivity) ?_
    have hexp : j + e.toNat + (-(e + j)).toNat = (e + j).toNat + (-e).toNat := by omega
    calc m * 10 ^ j * 10 ^ e.toNat * 10 ^ (-(e + j)).toNat
        = m * 10 ^ (j + e.toNat + (-(e + j)).toNat) := by rw [pow_add, pow_add]; ring
      _ = m * 10 ^ (e + j).toNat * 10 ^ (-e).toNat := by rw [hexp, pow_add]; ring

/-- The sign of a decimal has no say in its size. -/
theorem ofDecimal_of_unsigned {m : Nat} {e : Int} {t : Bool} {k : Fin 9218868437227405312}
    (h : ofDecimal false m e = .finite t k) (s : Bool) : ofDecimal s m e = .finite s k := by
  unfold ofDecimal at h ⊢
  split at h
  · simp only [ofRatio, ofPlace] at h ⊢
    split_ifs at h ⊢ with hk
    cases h
    rfl
  · cases h
  · cases h
    rfl

end Binary64

namespace Decimal

theorem lt_pow_length_digits (n : Nat) : n < 10 ^ (digits n).length := by
  induction n using Nat.strong_induction_on with
  | _ n ih =>
    by_cases hn : n < 10
    · simpa [digits_of_lt hn] using hn
    · rw [digits_of_ge (by omega), List.length_append, List.length_singleton, pow_succ]
      have := ih (n / 10) (by omega)
      omega

theorem lt_length_digits {n i : Nat} (h : 10 ^ i ≤ n) : i < (digits n).length :=
  (Nat.pow_lt_pow_iff_right (by norm_num)).1 (lt_of_le_of_lt h (lt_pow_length_digits n))

theorem length_digits_le {n i : Nat} (hi : 0 < i) (h : n < 10 ^ i) : (digits n).length ≤ i := by
  induction i, hi using Nat.le_induction generalizing n with
  | base => rw [digits_of_lt (by simpa using h), List.length_singleton]
  | succ i hi ih =>
    by_cases hn : n < 10
    · rw [digits_of_lt hn, List.length_singleton]
      omega
    · rw [digits_of_ge (by omega), List.length_append, List.length_singleton]
      exact Nat.succ_le_succ (ih (by rw [pow_succ] at h; omega))

end Decimal

namespace Shortest

/-! ## The shortest decimal -/

theorem ofDecimal_of_readsBack {k : Fin 9218868437227405312} {m : Nat} {e : Int}
    (h : readsBack k m e = true) (s : Bool) : Binary64.ofDecimal s m e = .finite s k := by
  unfold readsBack at h
  split at h
  · next t l hl =>
    have hkl : l = k := Fin.ext (by simpa using h)
    exact Binary64.ofDecimal_of_unsigned (hkl ▸ hl) s
  · cases h

theorem readsBack_of_atPrecision {tie : Tie} {k count m : Nat} {e : Int}
    (h : atPrecision tie k count = some (m, e)) : readsBack k m e = true := by
  simp only [atPrecision] at h
  split_ifs at h with h₁ h₂ h₃ h₄ <;> cases h <;> assumption

/-- The exact decimal of a number is read as that number. -/
theorem ofDecimal_exact (k : Fin 9218868437227405312) (s : Bool) :
    Binary64.ofDecimal s
      (Precision.binary64.quanta k * Nat.pow 5 Precision.binary64.quantumExponent)
      (-(Precision.binary64.quantumExponent : Int)) = .finite s k := by
  have hplace := Precision.binary64.nearestPlace_quanta k
  obtain ⟨i, hi, hi'⟩ : ∃ i, Precision.binary64.quantumExponent = 3 * i ∧ i ≤ 400 :=
    ⟨358, rfl, by norm_num⟩
  by_cases hq : Precision.binary64.quanta k = 0
  · have hk : (0 : Nat) = k := by
      rw [← hplace, hq, Precision.nearestPlace_zero _ (by positivity)]
    rw [hq, Nat.zero_mul, Binary64.ofDecimal_zero, Binary64.zero]
    exact congrArg _ (Fin.ext hk)
  generalize hQ : Precision.binary64.quantumExponent = q at *
  change Binary64.ofDecimal s (Precision.binary64.quanta k * 5 ^ q) (-(q : Int)) = .finite s k
  have hfive : 10 ^ (2 * i) ≤ 5 ^ q :=
    calc 10 ^ (2 * i) = (10 ^ 2) ^ i := Nat.pow_mul 10 2 i
      _ ≤ (5 ^ 3) ^ i := Nat.pow_le_pow_left (by norm_num) i
      _ = 5 ^ q := by rw [hi, Nat.pow_mul]
  have hlen : 2 * i < (Decimal.digits (Precision.binary64.quanta k * 5 ^ q)).length :=
    Decimal.lt_length_digits (le_trans hfive (Nat.le_mul_of_pos_left _ (Nat.pos_of_ne_zero hq)))
  have hratio : Precision.binary64.quanta k * 5 ^ q * 10 ^ (-(q : Int)).toNat * 2 ^ q =
      Precision.binary64.quanta k * 10 ^ (-(-(q : Int))).toNat := by
    have hneg : (-(q : Int)).toNat = 0 := by omega
    have hpos : (-(-(q : Int))).toNat = q := by omega
    rw [hneg, hpos, pow_zero, Nat.mul_one, Nat.mul_assoc, ← Nat.mul_pow]
  rw [Binary64.ofDecimal_eq_ofRatio s (Nat.mul_ne_zero hq (by positivity)) (by omega),
    Binary64.ofRatio_congr s (by positivity) (by positivity) hratio, Binary64.ofRatio, hplace,
    Binary64.ofPlace_val]

/-- The shortest decimal for a number is read as that number. -/
theorem ofDecimal_ofPlace (tie : Tie) (k : Fin 9218868437227405312) (s : Bool) :
    Binary64.ofDecimal s (ofPlace tie k).1 (ofPlace tie k).2 = .finite s k := by
  unfold ofPlace
  split
  · next decimal h =>
    obtain ⟨m, e⟩ := decimal
    obtain ⟨i, -, hi⟩ := List.exists_of_findSome?_eq_some h
    exact ofDecimal_of_readsBack (readsBack_of_atPrecision hi) s
  · exact ofDecimal_exact k s

end Shortest

end SearchRequest
