import SearchRequest.Number.Binary64

/-!
# The shortest decimal that reads back

A number of the 64-bit format is written with the fewest decimal digits whose decimal is read
back as the same number; of two decimals with that few digits the nearer one is taken.

* `Shortest.atPrecision` — the decimal with a given count of digits that reads back, if any.
* `Shortest.ofPlace` — the shortest decimal for the number at a place.
-/

namespace SearchRequest.Shortest

/-- How many zeros follow the decimal point of `n / d`, a fraction below one. -/
def leadingZeros (d : Nat) : Nat → Nat → Nat
  | 0, _ => 0
  | fuel + 1, n => if d ≤ 10 * n then 0 else leadingZeros d fuel (10 * n) + 1

/-- The exponent `t` with `10 ^ (t - 1) ≤ n / d < 10 ^ t`, for a positive number of the 64-bit
format. -/
def magnitude (n d : Nat) : Int :=
  if d ≤ n then (Decimal.digits (n / d)).length
  else -(leadingZeros d 400 n : Int)

/-- Which way an exact tie between two decimals goes. -/
inductive Tie where
  /-- To the decimal with the even last digit. -/
  | toEven
  /-- To the larger decimal. -/
  | up
  deriving DecidableEq, Repr

/-- The natural number nearest to `n / d`, a tie going as told. -/
def nearest (tie : Tie) (n d : Nat) : Nat :=
  if tie = .up && 2 * (n % d) = d then n / d + 1 else roundHalfEven n d

/-- Whether a decimal is read as the number at a place. -/
def readsBack (place digits : Nat) (exponent : Int) : Bool :=
  match Binary64.ofDecimal false digits exponent with
  | .finite _ k => k.val == place
  | _ => false

/-- The decimal with `count` digits that reads back as the number at a place, the nearer one
first. -/
def atPrecision (tie : Tie) (place count : Nat) : Option (Nat × Int) :=
  let quanta := Precision.binary64.quanta place
  let unit := Nat.pow 2 Precision.binary64.quantumExponent
  let exponent := magnitude quanta unit - count
  let n := if 0 ≤ exponent then quanta else quanta * Nat.pow 10 (-exponent).toNat
  let d := if 0 ≤ exponent then unit * Nat.pow 10 exponent.toNat else unit
  let near := nearest tie n d
  let far := if near = n / d then near + 1 else n / d
  if readsBack place near exponent then some (near, exponent)
  else if readsBack place far exponent then some (far, exponent)
  else none

/-- The shortest decimal for the number at a positive place, as digits and a power of ten.  Seventeen
digits always suffice; the exact decimal stands behind them. -/
def ofPlace (tie : Tie) (place : Nat) : Nat × Int :=
  match (List.range 17).findSome? (fun i => atPrecision tie place (i + 1)) with
  | some decimal => decimal
  | none =>
    let e := Precision.binary64.quantumExponent
    (Precision.binary64.quanta place * Nat.pow 5 e, -(e : Int))

end SearchRequest.Shortest
