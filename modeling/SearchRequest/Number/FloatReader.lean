import SearchRequest.Number.Binary64

/-!
# Reading decimals

A decimal is read as a number of the 64-bit format.  Readers differ: one finds the nearest number,
another one takes a few rounded operations and may miss it.

* `FloatReader` — a way of reading decimals.
* `FloatReader.exact` — the reader that finds the nearest number.
* `FloatReader.quick` — the reader that takes a significand of 64 bits times or over a power of ten.
-/

namespace SearchRequest

/-- A way of reading decimals. -/
structure FloatReader where
  /-- The number for a sign, the digits before the point, those after it, and the power of ten that
  is written behind them.  A decimal that is read as no finite number is out of range. -/
  read (negative : Bool) (whole fraction : List Char) (power : Int) : Binary64

namespace FloatReader

/-- The reader that finds the number nearest to a decimal, a tie going to the even one. -/
def exact : FloatReader where
  read negative whole fraction power :=
    Binary64.ofDecimal negative (Decimal.value (whole ++ fraction)) (power - fraction.length)

namespace Quick

/-- Takes digits onto a significand while it stays below two to the 64: the significand, and how
many digits are left. -/
def take : Nat → List Char → Nat × Nat
  | n, [] => (n, 0)
  | n, c :: cs =>
    let next := 10 * n + Decimal.digitValue c
    if next < 18446744073709551616 then take next cs else (n, cs.length + 1)

/-- The place of the number nearest to a natural number. -/
def ofNat (n : Nat) : Nat := Precision.binary64.nearestPlace n 1

/-- The place of the number nearest to a power of ten. -/
def powerOfTen (n : Nat) : Nat := ofNat (Nat.pow 10 n)

/-- The place of the rounded product of the numbers at two places. -/
def product (k l : Nat) : Nat :=
  let unit := Nat.pow 2 Precision.binary64.quantumExponent
  Precision.binary64.nearestPlace
    (Precision.binary64.quanta k * Precision.binary64.quanta l) (unit * unit)

/-- The place of the rounded quotient of the numbers at two places. -/
def quotient (k l : Nat) : Nat :=
  Precision.binary64.nearestPlace (Precision.binary64.quanta k) (Precision.binary64.quanta l)

/-- The number at a place over the largest power of ten, again and again until it is zero. -/
def shrink : Nat → Nat → Nat
  | 0, k => k
  | count + 1, k => if k = 0 then 0 else shrink count (quotient k (powerOfTen 308))

/-- The number at a place times a power of ten.  Powers beyond the largest one of the format are
taken in steps when they divide, and are out of range when they multiply. -/
def scale (k : Nat) (e : Int) : Nat :=
  if 0 ≤ e then
    if e ≤ 308 then product k (powerOfTen e.toNat)
    else if k = 0 then 0
    else Precision.binary64.placeCount
  else
    let steps := (e.natAbs - 1) / 308
    quotient (shrink steps k) (powerOfTen (e.natAbs - 308 * steps))

end Quick

/-- The reader that takes as many digits as fit 64 bits, and that number times or over a power of
ten.  The whole digits that do not fit raise the power, the others are dropped. -/
def quick : FloatReader where
  read negative whole fraction power :=
    let (high, left) := Quick.take 0 whole
    let (significand, dropped) := Quick.take high fraction
    if 2147483647 < power.natAbs then
      if significand = 0 || power < 0 then Binary64.zero negative else .infinite negative
    else
      Binary64.ofPlace negative
        (Quick.scale (Quick.ofNat significand) (power + left + dropped - fraction.length))

end FloatReader

end SearchRequest
