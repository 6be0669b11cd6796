import SearchRequest.Number.FloatReader
import SearchRequest.Proofs.Number.Decimals

/-!
# Decimals that the quick reader reads exactly

The quick reader rounds three times: the significand, the power of ten, and their product or
quotient.  Where the first two are numbers of the format, only the last rounding is left, and the
number nearest to the decimal is what comes out.

* `FloatReader.Quick.take_eq` — the digits that fit 64 bits are all taken.
* `FloatReader.Quick.scale_eq` — a small number times or over a small power of ten is rounded once.
* `FloatReader.quick_read` — a decimal with few digits and a small power of ten is read exactly.
-/

namespace SearchRequest.FloatReader

open Precision

namespace Quick

variable {done cs : List Char} {n m : Nat} {e : Int}

/-- The digits that fit 64 bits are all taken. -/
theorem take_eq (h : Decimal.value (done ++ cs) < 18446744073709551616) :
    take (Decimal.value done) cs = (Decimal.value (done ++ cs), 0) := by
  induction cs generalizing done with
  | nil => rw [List.append_nil, take]
  | cons c cs ih =>
    have hsplit : done ++ c :: cs = done ++ [c] ++ cs := by simp
    have hnext : 10 * Decimal.value done + Decimal.digitValue c = Decimal.value (done ++ [c]) := by
      simp [Decimal.value]
    rw [hsplit] at h ⊢
    have hle : Decimal.value (done ++ [c]) ≤ Decimal.value (done ++ [c] ++ cs) := by
      rw [Decimal.value_append _ cs]
      exact le_trans (Nat.le_mul_of_pos_right _ (by positivity)) (Nat.le_add_right _ _)
    rw [take, hnext, if_pos (lt_of_le_of_lt hle h)]
    exact ih h

theorem quanta_ofNat (h : m < 2 ^ 53) :
    binary64.quanta (ofNat m) = m * 2 ^ binary64.quantumExponent := by
  simpa [ofNat] using binary64.quanta_nearestPlace_mul_pow h 0

/-- The first powers of ten are numbers of the format. -/
theorem quanta_powerOfTen (h : n ≤ 22) :
    binary64.quanta (powerOfTen n) = 10 ^ n * 2 ^ binary64.quantumExponent := by
  have hfive : 5 ^ n < 2 ^ 53 :=
    calc 5 ^ n ≤ 5 ^ 22 := Nat.pow_le_pow_right (by norm_num) h
      _ < 2 ^ 53 := by norm_num
  have hten : 10 ^ n = 5 ^ n * 2 ^ n := by rw [← Nat.mul_pow]
  rw [powerOfTen, ofNat, Nat.pow_eq, hten, binary64.quanta_nearestPlace_mul_pow hfive n, pow_add,
    Nat.mul_assoc]

theorem product_eq (hm : m < 2 ^ 53) (hn : n ≤ 22) :
    product (ofNat m) (powerOfTen n) = binary64.nearestPlace (m * 10 ^ n) 1 := by
  have hunit : 0 < 2 ^ binary64.quantumExponent := by positivity
  rw [product, quanta_ofNat hm, quanta_powerOfTen hn, Nat.pow_eq]
  generalize 2 ^ binary64.quantumExponent = unit at hunit ⊢
  have hunits : m * unit * (10 ^ n * unit) = m * 10 ^ n * (unit * unit) := by ring
  have hrounded := binary64.nearestPlace_mul (Nat.mul_pos hunit hunit) (m * 10 ^ n) 1
  rwa [Nat.one_mul, ← hunits] at hrounded

theorem quotient_eq (hm : m < 2 ^ 53) (hn : n ≤ 22) :
    quotient (ofNat m) (powerOfTen n) = binary64.nearestPlace m (10 ^ n) := by
  rw [quotient, quanta_ofNat hm, quanta_powerOfTen hn]
  exact binary64.nearestPlace_mul (by positivity) m (10 ^ n)

/-- A small number times or over a small power of ten is rounded once. -/
theorem scale_eq (hm : m < 2 ^ 53) (he : e.natAbs ≤ 22) :
    scale (ofNat m) e = binary64.nearestPlace (m * 10 ^ e.toNat) (10 ^ (-e).toNat) := by
  by_cases hpos : 0 ≤ e
  · have hneg : (-e).toNat = 0 := by omega
    rw [scale, if_pos hpos, if_pos (by omega), product_eq hm (by omega), hneg, pow_zero]
  · have hzero : e.toNat = 0 := by omega
    have hpower : e.natAbs - 308 * ((e.natAbs - 1) / 308) = (-e).toNat := by omega
    have hsteps : (e.natAbs - 1) / 308 = 0 := by omega
    rw [scale, if_neg hpos]
    dsimp only
    rw [hpower, hsteps, shrink, quotient_eq hm (by omega), hzero, pow_zero, Nat.mul_one]

end Quick

variable {whole fraction : List Char} {power : Int}

/-- A decimal with few digits and a small power of ten is read as the number nearest to it. -/
theorem quick_read (hvalue : Decimal.value (whole ++ fraction) < 2 ^ 53)
    (hscale : (power - fraction.length).natAbs ≤ 22) (hpower : power.natAbs ≤ 2147483647)
    (negative : Bool) :
    quick.read negative whole fraction power = exact.read negative whole fraction power := by
  have hfraction : Quick.take (Decimal.value whole) fraction =
      (Decimal.value (whole ++ fraction), 0) := Quick.take_eq (by omega)
  have hwhole : Quick.take 0 whole = (Decimal.value whole, 0) := by
    have hle : Decimal.value whole ≤ Decimal.value (whole ++ fraction) := by
      rw [Decimal.value_append]
      exact le_trans (Nat.le_mul_of_pos_right _ (by positivity)) (Nat.le_add_right _ _)
    exact @Quick.take_eq [] whole (lt_of_le_of_lt hle (by omega))
  have hplace := Quick.scale_eq hvalue hscale
  simp only [quick, exact, hwhole, hfraction, Int.natCast_zero, add_zero]
  rw [if_neg (by omega), hplace]
  generalize Decimal.value (whole ++ fraction) = m
  generalize power - (fraction.length : Int) = e at hscale
  by_cases hm : m = 0
  · rw [hm, Binary64.ofDecimal_zero, Nat.zero_mul, Precision.nearestPlace_zero _ (by positivity)]
    exact Binary64.ofPlace_val negative 0
  · rw [Binary64.ofDecimal_eq_ofRatio negative hm (by omega), Binary64.ofRatio]

end SearchRequest.FloatReader
