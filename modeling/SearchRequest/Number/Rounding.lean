/-!
# Rounding to a binary floating-point format

The nonnegative finite numbers of a binary format stand in a row, in increasing order, starting
with zero; the *place* of a number is its position in that row.  Every number of the format is a
whole multiple of its least positive number, the *quantum*, so a place is turned into a natural
number of quanta without loss.

* `Precision` — the three sizes that fix a format, with `binary64` and `binary32`.
* `Precision.quanta p k` — the number at place `k`, counted in quanta.
* `Precision.nearestPlace p n d` — the place of the number nearest to `n / d`, a tie going to the
  even place.
-/

namespace SearchRequest

/-- The sizes that fix a binary floating-point format. -/
structure Precision where
  /-- How many bits follow the leading bit of a number. -/
  fractionBits : Nat
  /-- The quantum is two to the minus this. -/
  quantumExponent : Nat
  /-- How many blocks of `2 ^ fractionBits` places hold finite numbers. -/
  blocks : Nat

namespace Precision

/-- The format of 64 bits. -/
def binary64 : Precision := ⟨52, 1074, 2047⟩

/-- The format of 32 bits. -/
def binary32 : Precision := ⟨23, 149, 255⟩

/-- How many places hold finite numbers. -/
def placeCount (p : Precision) : Nat := p.blocks * Nat.pow 2 p.fractionBits

/-- The number at place `k`, counted in quanta. -/
def quanta (p : Precision) (k : Nat) : Nat :=
  let shift := k / Nat.pow 2 p.fractionBits - 1
  (k - shift * Nat.pow 2 p.fractionBits) * Nat.pow 2 shift

end Precision

/-- The natural number nearest to `n / d`, a tie going to the even one. -/
def roundHalfEven (n d : Nat) : Nat :=
  let q := n / d
  let r := n % d
  if 2 * r < d then q
  else if d < 2 * r then q + 1
  else if q % 2 = 0 then q else q + 1

namespace Precision

/-- The place of the number nearest to `n / d`, a tie going to the even place.  It is at least
`placeCount` when the number is beyond all finite ones. -/
def nearestPlace (p : Precision) (n d : Nat) : Nat :=
  let inQuanta := n * Nat.pow 2 p.quantumExponent
  let shift := Nat.log2 (inQuanta / d) - p.fractionBits
  shift * Nat.pow 2 p.fractionBits + roundHalfEven inQuanta (d * Nat.pow 2 shift)

end Precision

end SearchRequest
