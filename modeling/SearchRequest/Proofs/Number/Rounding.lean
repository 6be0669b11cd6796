import Mathlib.Tactic
import SearchRequest.Number.Rounding

/-!
# Laws of rounding

* `Precision.nearestPlace_mul` — rounding sees a fraction, not its numerator and denominator.
* `Precision.nearestPlace_quanta` — a number of the format is rounded to itself.
* `Precision.quanta_nearestPlace` — a number with few significant bits is a number of the format.
* `Precision.placeCount_le_nearestPlace` — what is too large is rounded beyond the finite numbers.
-/

namespace SearchRequest

/-! ## Rounding to a natural number -/

theorem roundHalfEven_mul {c : Nat} (hc : 0 < c) (n d : Nat) :
    roundHalfEven (n * c) (d * c) = roundHalfEven n d := by
  have hlow : 2 * (n % d * c) < d * c ↔ 2 * (n % d) < d := by
    rw [← Nat.mul_assoc]
    exact Nat.mul_lt_mul_right hc
  have hhigh : d * c < 2 * (n % d * c) ↔ d < 2 * (n % d) := by
    rw [← Nat.mul_assoc]
    exact Nat.mul_lt_mul_right hc
  simp only [roundHalfEven, Nat.mul_div_mul_right n d hc, Nat.mul_mod_mul_right, hlow, hhigh]

theorem roundHalfEven_mul_self {d : Nat} (hd : 0 < d) (q : Nat) : roundHalfEven (q * d) d = q := by
  simp [roundHalfEven, Nat.mul_div_cancel q hd, hd]

theorem div_le_roundHalfEven (n d : Nat) : n / d ≤ roundHalfEven n d := by
  simp only [roundHalfEven]
  split_ifs <;> omega

namespace Precision

variable (p : Precision)

/-- Rounding sees a fraction, not its numerator and denominator. -/
theorem nearestPlace_mul {c : Nat} (hc : 0 < c) (n d : Nat) :
    p.nearestPlace (n * c) (d * c) = p.nearestPlace n d := by
  have hn : n * c * Nat.pow 2 p.quantumExponent = n * Nat.pow 2 p.quantumExponent * c := by ring
  have hd : ∀ s, d * c * Nat.pow 2 s = d * Nat.pow 2 s * c := fun s => by ring
  simp only [nearestPlace, hn, hd, Nat.mul_div_mul_right _ d hc, roundHalfEven_mul hc]

theorem nearestPlace_zero {d : Nat} (hd : 0 < d) : p.nearestPlace 0 d = 0 := by
  have hround : roundHalfEven (0 * d) d = 0 := roundHalfEven_mul_self hd 0
  simpa [nearestPlace] using hround

/-- The block of a place decides how far its fraction is shifted. -/
theorem log2_quanta_sub (k : Nat) :
    Nat.log2 (p.quanta k) - p.fractionBits = k / 2 ^ p.fractionBits - 1 := by
  have hF : 0 < 2 ^ p.fractionBits := by positivity
  simp only [quanta, Nat.pow_eq]
  rcases Nat.lt_or_ge k (2 ^ p.fractionBits) with hk | hk
  · rw [Nat.div_eq_of_lt hk]
    rcases Nat.eq_zero_or_pos k with rfl | hpos
    · simp
    · have hlog : Nat.log2 k < p.fractionBits := (Nat.log2_lt hpos.ne').2 hk
      simp only [Nat.zero_sub, Nat.zero_mul, Nat.sub_zero, pow_zero, Nat.mul_one]
      omega
  · obtain ⟨s, hs⟩ : ∃ s, k / 2 ^ p.fractionBits = s + 1 :=
      ⟨k / 2 ^ p.fractionBits - 1, by have := Nat.div_pos hk hF; omega⟩
    have hdecomp := Nat.div_add_mod k (2 ^ p.fractionBits)
    have hmod := Nat.mod_lt k hF
    rw [hs] at hdecomp
    have hfrac : k - s * 2 ^ p.fractionBits = 2 ^ p.fractionBits + k % 2 ^ p.fractionBits := by
      have : 2 ^ p.fractionBits * (s + 1) = s * 2 ^ p.fractionBits + 2 ^ p.fractionBits := by ring
      omega
    rw [hs, Nat.add_sub_cancel, hfrac]
    have hne : (2 ^ p.fractionBits + k % 2 ^ p.fractionBits) * 2 ^ s ≠ 0 := by positivity
    have hlog : Nat.log2 ((2 ^ p.fractionBits + k % 2 ^ p.fractionBits) * 2 ^ s) =
        p.fractionBits + s := by
      rw [Nat.log2_eq_iff hne]
      constructor
      · rw [pow_add]
        exact Nat.mul_le_mul_right _ (Nat.le_add_right _ _)
      · calc (2 ^ p.fractionBits + k % 2 ^ p.fractionBits) * 2 ^ s
            < (2 ^ p.fractionBits + 2 ^ p.fractionBits) * 2 ^ s :=
              Nat.mul_lt_mul_of_pos_right (by omega) (by positivity)
          _ = 2 ^ (p.fractionBits + s + 1) := by ring
    omega

/-- A number of the format is rounded to itself. -/
theorem nearestPlace_quanta (k : Nat) :
    p.nearestPlace (p.quanta k) (2 ^ p.quantumExponent) = k := by
  have hQ : 0 < 2 ^ p.quantumExponent := by positivity
  have hle : (k / 2 ^ p.fractionBits - 1) * 2 ^ p.fractionBits ≤ k :=
    le_trans (Nat.mul_le_mul_right _ (Nat.sub_le _ _)) (Nat.div_mul_le_self _ _)
  simp only [nearestPlace, Nat.pow_eq, Nat.mul_div_cancel _ hQ, log2_quanta_sub]
  have hround : roundHalfEven (p.quanta k * 2 ^ p.quantumExponent)
      (2 ^ p.quantumExponent * 2 ^ (k / 2 ^ p.fractionBits - 1)) =
        k - (k / 2 ^ p.fractionBits - 1) * 2 ^ p.fractionBits := by
    simp only [quanta, Nat.pow_eq]
    rw [Nat.mul_comm (2 ^ p.quantumExponent), roundHalfEven_mul hQ,
      roundHalfEven_mul_self (by positivity)]
  omega

/-- A whole number of quanta with no more significant bits than the format has is a number of the
format. -/
theorem quanta_nearestPlace {x : Nat} (h : 2 ^ (Nat.log2 x - p.fractionBits) ∣ x) :
    p.quanta (p.nearestPlace x (2 ^ p.quantumExponent)) = x := by
  have hQ : 0 < 2 ^ p.quantumExponent := by positivity
  have hF : 0 < 2 ^ p.fractionBits := by positivity
  obtain ⟨y, hy⟩ := h
  generalize hs : Nat.log2 x - p.fractionBits = s at hy
  have hplace : p.nearestPlace x (2 ^ p.quantumExponent) = s * 2 ^ p.fractionBits + y := by
    simp only [nearestPlace, Nat.pow_eq, Nat.mul_div_cancel _ hQ, hs]
    rw [Nat.mul_comm (2 ^ p.quantumExponent), roundHalfEven_mul hQ, hy, Nat.mul_comm (2 ^ s),
      roundHalfEven_mul_self (by positivity)]
  have hblock : (s * 2 ^ p.fractionBits + y) / 2 ^ p.fractionBits - 1 = s := by
    rw [Nat.add_comm, Nat.add_mul_div_right _ _ hF]
    rcases Nat.eq_zero_or_pos s with rfl | hpos
    · -- there are few bits, and the place stands in one of the first two blocks
      have hlog : Nat.log2 x < p.fractionBits + 1 := by omega
      have hlt : x < 2 ^ (p.fractionBits + 1) := by
        rcases Nat.eq_zero_or_pos x with rfl | hx
        · positivity
        · exact (Nat.log2_lt hx.ne').1 hlog
      have hdiv : y / 2 ^ p.fractionBits < 2 := by
        rw [Nat.div_lt_iff_lt_mul hF, ← pow_succ']
        simpa [hy] using hlt
      omega
    · have hx : x ≠ 0 := by
        rintro rfl
        simp at hs
        omega
      have hdiv : y / 2 ^ p.fractionBits = 1 := by
        have hlow := Nat.log2_self_le hx
        have hhigh := Nat.lt_log2_self (n := x)
        have hlog : Nat.log2 x = s + p.fractionBits := by omega
        rw [hlog, hy, pow_add] at hlow
        rw [hlog, hy, add_assoc, pow_add] at hhigh
        refine Nat.div_eq_of_lt_le ?_ ?_
        · simpa using Nat.le_of_mul_le_mul_left hlow (by positivity)
        · simpa [pow_succ'] using Nat.lt_of_mul_lt_mul_left hhigh
      omega
  rw [hplace, quanta]
  simp only [Nat.pow_eq, hblock, Nat.add_sub_cancel_left]
  rw [hy, Nat.mul_comm]

/-- A number with few significant bits, and zeros behind them, is a number of the format. -/
theorem quanta_nearestPlace_mul_pow {m : Nat} (h : m < 2 ^ (p.fractionBits + 1)) (j : Nat) :
    p.quanta (p.nearestPlace (m * 2 ^ j) 1) = m * 2 ^ (j + p.quantumExponent) := by
  have hplace : p.nearestPlace (m * 2 ^ j) 1 =
      p.nearestPlace (m * 2 ^ (j + p.quantumExponent)) (2 ^ p.quantumExponent) := by
    have hmul := p.nearestPlace_mul (c := 2 ^ p.quantumExponent) (by positivity) (m * 2 ^ j) 1
    rw [Nat.one_mul, Nat.mul_assoc, ← pow_add] at hmul
    exact hmul.symm
  rw [hplace, quanta_nearestPlace]
  rcases Nat.eq_zero_or_pos m with rfl | hm
  · simp
  have hlt : m * 2 ^ (j + p.quantumExponent) <
      2 ^ (p.fractionBits + 1 + (j + p.quantumExponent)) := by
    rw [pow_add _ (p.fractionBits + 1)]
    exact Nat.mul_lt_mul_of_pos_right h (by positivity)
  have hlog := (Nat.log2_lt (by positivity)).2 hlt
  exact Dvd.dvd.mul_left (pow_dvd_pow 2 (by omega)) m

/-- What is too large is rounded beyond the finite numbers. -/
theorem placeCount_le_nearestPlace {n d : Nat} (hd : 0 < d) (hb : 0 < p.blocks)
    (h : d * 2 ^ (p.fractionBits + p.blocks - 1) ≤ n * 2 ^ p.quantumExponent) :
    p.placeCount ≤ p.nearestPlace n d := by
  set m := n * 2 ^ p.quantumExponent / d with hm
  have hpow : 2 ^ (p.fractionBits + p.blocks - 1) ≤ m := by
    rw [hm, Nat.le_div_iff_mul_le hd, Nat.mul_comm]
    exact h
  have hm0 : m ≠ 0 := by
    have : 0 < 2 ^ (p.fractionBits + p.blocks - 1) := by positivity
    omega
  have hlog : p.fractionBits + p.blocks - 1 ≤ Nat.log2 m := (Nat.le_log2 hm0).2 hpow
  set s := Nat.log2 m - p.fractionBits with hs
  have hround : 2 ^ p.fractionBits ≤ roundHalfEven (n * 2 ^ p.quantumExponent) (d * 2 ^ s) := by
    refine le_trans ?_ (div_le_roundHalfEven _ _)
    rw [← Nat.div_div_eq_div_mul, ← hm, Nat.le_div_iff_mul_le (by positivity), ← pow_add]
    have hsum : p.fractionBits + s = Nat.log2 m := by omega
    rw [hsum]
    exact Nat.log2_self_le hm0
  have hblocks : (p.blocks - 1) * 2 ^ p.fractionBits ≤ s * 2 ^ p.fractionBits :=
    Nat.mul_le_mul_right _ (by omega)
  calc p.placeCount = (p.blocks - 1) * 2 ^ p.fractionBits + 2 ^ p.fractionBits := by
        obtain ⟨b, hb'⟩ : ∃ b, p.blocks = b + 1 := ⟨p.blocks - 1, by omega⟩
        simp only [placeCount, Nat.pow_eq, hb', Nat.add_sub_cancel]
        ring
    _ ≤ s * 2 ^ p.fractionBits + roundHalfEven (n * 2 ^ p.quantumExponent) (d * 2 ^ s) :=
        Nat.add_le_add hblocks hround
    _ = p.nearestPlace n d := rfl

end Precision

end SearchRequest
