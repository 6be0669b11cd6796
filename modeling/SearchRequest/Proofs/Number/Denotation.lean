import SearchRequest.Number.Basic
import SearchRequest.Proofs.Number.Rounding

/-!
# The number that a literal denotes

A finite number of the 64-bit format is a whole number of quanta, and so denotes a rational exactly.
Literals of all three kinds can thus be compared with the natural numbers without rounding.

* `Binary64.rational?`, `Number.rational?` — the rational that a number, or a literal, denotes.
* `Number.Denotes` — a literal denotes a natural number.
* `Binary64.whole?_eq_some_iff` — the natural number of a number in the format is the one that it
  denotes.
* `Number.toUInt64?_eq_some_iff` — a literal is read as the natural number that it denotes, except
  that two to the 64 is cut to the end of the range.
* `Number.toUInt64?_congr` — literals that denote the same are read alike, whatever their kinds.
-/

namespace SearchRequest

theorem Precision.quanta_eq_zero_iff (p : Precision) {k : Nat} : p.quanta k = 0 ↔ k = 0 := by
  constructor
  · intro h
    rw [← p.nearestPlace_quanta k, h, p.nearestPlace_zero (by positivity)]
  · rintro rfl
    simp [quanta]

namespace Binary64

/-- The rational that a number denotes, if it is finite. -/
def rational? : Binary64 → Option ℚ
  | .finite negative place =>
    let size : ℚ := Precision.binary64.quanta place / 2 ^ Precision.binary64.quantumExponent
    some (if negative then -size else size)
  | _ => none

/-- A fraction is a natural number if its denominator goes into its numerator that often. -/
theorem natCast_div_eq_iff {q u n : Nat} (hu : 0 < u) :
    (q : ℚ) / u = n ↔ q % u = 0 ∧ q / u = n := by
  have hne : (u : ℚ) ≠ 0 := by positivity
  rw [div_eq_iff hne, ← Nat.cast_mul, Nat.cast_inj]
  constructor
  · rintro rfl
    exact ⟨Nat.mul_mod_left n u, Nat.mul_div_cancel n hu⟩
  · rintro ⟨hmod, rfl⟩
    exact (Nat.div_mul_cancel (Nat.dvd_of_mod_eq_zero hmod)).symm

/-- The natural number of a number is the one that it denotes. -/
theorem whole?_eq_some_iff {x : Binary64} {n : Nat} :
    x.whole? = some n ↔ x.rational? = some (n : ℚ) := by
  cases x with
  | infinite s => simp [whole?, rational?]
  | nan => simp [whole?, rational?]
  | finite s k =>
    have hunit : 0 < 2 ^ Precision.binary64.quantumExponent := by positivity
    have hzero := Precision.binary64.quanta_eq_zero_iff (k := k)
    simp only [whole?, rational?, Nat.pow_eq, Option.some.injEq]
    generalize Precision.binary64.quanta k = q at hzero ⊢
    have hcast : (2 : ℚ) ^ Precision.binary64.quantumExponent =
        ((2 ^ Precision.binary64.quantumExponent : Nat) : ℚ) := by push_cast; rfl
    rw [hcast]
    generalize 2 ^ Precision.binary64.quantumExponent = u at hunit
    cases s with
    | false => simp [natCast_div_eq_iff hunit]
    | true =>
      -- below zero there is none, and minus zero is zero
      by_cases hk : k.val = 0
      · obtain rfl := hzero.2 hk
        have hzero : (0 : ℚ) = n ↔ 0 = n := by rw [eq_comm, Nat.cast_eq_zero, eq_comm]
        simp [Fin.ext_iff, hk, hzero]
      · have hq : 0 < q := Nat.pos_of_ne_zero (mt hzero.1 hk)
        have hneg : -((q : ℚ) / u) ≠ n := by
          have hpos : 0 < (q : ℚ) / u := by positivity
          have hn : (0 : ℚ) ≤ n := Nat.cast_nonneg n
          linarith
        simp [Fin.ext_iff, hk, hneg]

end Binary64

namespace Number

/-- The rational that a literal denotes, if it is finite. -/
def rational? : Number → Option ℚ
  | .signed n => some n.toInt
  | .unsigned n => some n.toNat
  | .float x => x.rational?

/-- A literal denotes a natural number. -/
def Denotes (n : Number) (m : Nat) : Prop := n.rational? = some (m : ℚ)

variable {n n' : Number} {m : Nat} {k : UInt64}

theorem denotes_signed_iff {i : Int64} : (signed i).Denotes m ↔ i.toInt = m := by
  rw [Denotes, rational?, Option.some.injEq]
  norm_cast

theorem denotes_unsigned_iff {i : UInt64} : (unsigned i).Denotes m ↔ i.toNat = m := by
  rw [Denotes, rational?, Option.some.injEq]
  norm_cast

theorem denotes_float_iff {x : Binary64} : (float x).Denotes m ↔ x.whole? = some m :=
  Binary64.whole?_eq_some_iff.symm

theorem Denotes.unique {m' : Nat} (h : n.Denotes m) (h' : n.Denotes m') : m = m' := by
  have hcast : (m : ℚ) = m' := Option.some.inj (h.symm.trans h')
  exact_mod_cast hcast

/-- A literal is read as the natural number that it denotes, if that is at most two to the 64; two
to the 64 itself is cut to the end of the range. -/
theorem toUInt64?_eq_some_iff_cut :
    n.toUInt64? = some k ↔ ∃ m, n.Denotes m ∧ m ≤ 2 ^ 64 ∧ k.toNat = min m (2 ^ 64 - 1) := by
  have hk := UInt64.toNat_lt k
  cases n with
  | signed i =>
    have hi := Int64.toInt_lt i
    have hword : (UInt64.ofNat i.toInt.toNat).toNat = i.toInt.toNat :=
      UInt64.toNat_ofNat_of_lt' (show i.toInt.toNat < 2 ^ 64 by omega)
    simp only [toUInt64?, denotes_signed_iff, Option.ite_none_right_eq_some, Option.some.injEq]
    constructor
    · rintro ⟨hnonneg, rfl⟩
      exact ⟨i.toInt.toNat, by omega, by omega, by omega⟩
    · rintro ⟨m, hm, -, hcut⟩
      exact ⟨by omega, UInt64.toNat_inj.1 (by omega)⟩
  | unsigned i =>
    have hi := UInt64.toNat_lt i
    simp only [toUInt64?, denotes_unsigned_iff, Option.some.injEq]
    constructor
    · rintro rfl
      exact ⟨i.toNat, rfl, by omega, by omega⟩
    · rintro ⟨m, rfl, -, hcut⟩
      exact UInt64.toNat_inj.1 (by omega)
  | float x =>
    simp only [toUInt64?, denotes_float_iff]
    cases x.whole? with
    | none => simp
    | some w =>
      have hword : (UInt64.ofNat (min w 18446744073709551615)).toNat = min w (2 ^ 64 - 1) :=
        UInt64.toNat_ofNat_of_lt' (show min w 18446744073709551615 < 2 ^ 64 by omega)
      simp only [Option.ite_none_right_eq_some, Option.some.injEq]
      constructor
      · rintro ⟨hle, rfl⟩
        exact ⟨w, rfl, by omega, hword⟩
      · rintro ⟨m, rfl, hle, hcut⟩
        exact ⟨by omega, UInt64.toNat_inj.1 (hword.trans hcut.symm)⟩

/-- A literal is read as the natural number that it denotes, if that is below two to the 64, and
two to the 64 itself as the number before it. -/
theorem toUInt64?_eq_some_iff :
    n.toUInt64? = some k ↔ n.Denotes k.toNat ∨ n.Denotes (2 ^ 64) ∧ k.toNat = 2 ^ 64 - 1 := by
  have hk := UInt64.toNat_lt k
  rw [toUInt64?_eq_some_iff_cut]
  constructor
  · rintro ⟨m, hm, hle, hcut⟩
    obtain hlt | rfl := Nat.lt_or_eq_of_le hle
    · left
      rwa [show k.toNat = m by omega]
    · exact .inr ⟨hm, hcut⟩
  · rintro (hm | ⟨hm, hcut⟩)
    · exact ⟨k.toNat, hm, by omega, by omega⟩
    · exact ⟨2 ^ 64, hm, Nat.le_refl _, hcut⟩

/-- A literal is not read as a natural number if it denotes none, or one beyond two to the 64. -/
theorem toUInt64?_eq_none_iff : n.toUInt64? = none ↔ ∀ m ≤ 2 ^ 64, ¬n.Denotes m := by
  constructor
  · intro hnone m hle hm
    have hsome : n.toUInt64? = some (UInt64.ofNat (min m (2 ^ 64 - 1))) :=
      toUInt64?_eq_some_iff_cut.2 ⟨m, hm, hle, UInt64.toNat_ofNat_of_lt'
        (show min m (2 ^ 64 - 1) < 2 ^ 64 by omega)⟩
    rw [hnone] at hsome
    cases hsome
  · intro h
    refine Option.eq_none_iff_forall_ne_some.2 fun k hk => ?_
    obtain ⟨m, hm, hle, -⟩ := toUInt64?_eq_some_iff_cut.1 hk
    exact h m hle hm

/-- Literals that denote the same are read alike, whatever their kinds. -/
theorem toUInt64?_congr (h : n.rational? = n'.rational?) : n.toUInt64? = n'.toUInt64? := by
  refine Option.ext fun k => ?_
  rw [toUInt64?_eq_some_iff, toUInt64?_eq_some_iff, Denotes, Denotes, Denotes, Denotes, h]

end Number

end SearchRequest
