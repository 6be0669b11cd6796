import SearchRequest.Number.Decimal
import SearchRequest.Number.Rounding

/-!
# Numbers in the 64-bit binary format

* `Binary64` — a finite number with its sign, an infinity, or no number.
* `Binary64.ofDecimal` — the number nearest to a decimal, a tie going to the even one.
* `Binary64.same` — equality as arithmetic sees it: zero equals minus zero, and `nan` differs
  from itself.
* `Binary64.whole?` — the natural number that a number denotes, if it denotes one.
* `Binary64.ofText?` — the number that a literal spells.
-/

namespace SearchRequest

/-- A number of the 64-bit binary format. -/
inductive Binary64 where
  /-- A finite number: its sign, and the place of its size in the row of the nonnegative finite
  numbers. -/
  | finite (negative : Bool) (place : Fin 9218868437227405312)
  /-- An infinity. -/
  | infinite (negative : Bool)
  /-- The result that is not a number. -/
  | nan
  deriving DecidableEq, Repr

namespace Binary64

/-- Zero, of either sign. -/
def zero (negative : Bool) : Binary64 := .finite negative 0

/-- Whether a number is neither infinite nor `nan`. -/
def isFinite : Binary64 → Bool
  | .finite _ _ => true
  | _ => false

/-- The number at a place, or the infinity when the place is beyond the finite numbers. -/
def ofPlace (negative : Bool) (place : Nat) : Binary64 :=
  if h : place < 9218868437227405312 then .finite negative ⟨place, h⟩ else .infinite negative

/-- The number nearest to `n / d`. -/
def ofRatio (negative : Bool) (n d : Nat) : Binary64 :=
  ofPlace negative (Precision.binary64.nearestPlace n d)

/-- The decimal `digits * 10 ^ exponent` as a fraction, or an early verdict (`true` for larger
than every number of the format, `false` for nearer to zero than every other one) where the
exponent alone decides. -/
def decimalRatio (digits : Nat) (exponent : Int) : Except Bool (Nat × Nat) :=
  if digits = 0 then .error false
  else if 400 < exponent then .error true
  else if (Decimal.digits digits).length + exponent < -400 then .error false
  else if 0 ≤ exponent then .ok (digits * Nat.pow 10 exponent.toNat, 1)
  else .ok (digits, Nat.pow 10 (-exponent).toNat)

/-- The number nearest to the decimal `digits * 10 ^ exponent`. -/
def ofDecimal (negative : Bool) (digits : Nat) (exponent : Int) : Binary64 :=
  match decimalRatio digits exponent with
  | .ok (n, d) => ofRatio negative n d
  | .error true => .infinite negative
  | .error false => zero negative

/-- The number nearest to a decimal among those of the 32-bit format. -/
def ofDecimalSingle (negative : Bool) (digits : Nat) (exponent : Int) : Binary64 :=
  match decimalRatio digits exponent with
  | .ok (n, d) =>
    let place := Precision.binary32.nearestPlace n d
    if place < Precision.binary32.placeCount then
      ofRatio negative (Precision.binary32.quanta place) (Nat.pow 2 Precision.binary32.quantumExponent)
    else .infinite negative
  | .error true => .infinite negative
  | .error false => zero negative

/-- Equality as arithmetic sees it. -/
def same : Binary64 → Binary64 → Bool
  | .finite s k, .finite t l => k == l && (s == t || k == 0)
  | .infinite s, .infinite t => s == t
  | _, _ => false

/-- The natural number that a number denotes, if it denotes one. -/
def whole? : Binary64 → Option Nat
  | .finite s k =>
    let quanta := Precision.binary64.quanta k
    let unit := Nat.pow 2 Precision.binary64.quantumExponent
    if (s && k != 0) || quanta % unit != 0 then none else some (quanta / unit)
  | _ => none

/-! ## Literals -/

/-- The number spelled after the sign of a literal: digits with an optional point and an optional
exponent, or the word for an infinity or for no number, in any case. -/
def ofUnsignedText? (nearest : Bool → Nat → Int → Binary64) (negative : Bool)
    (cs : List Char) : Option Binary64 :=
  let word := String.ofList (cs.map Char.toLower)
  if word = "inf" || word = "infinity" then some (.infinite negative)
  else if word = "nan" then some .nan
  else
    let whole := cs.takeWhile Char.isDigit
    let afterWhole := cs.dropWhile Char.isDigit
    let (fraction, afterFraction) := match afterWhole with
      | '.' :: r => (r.takeWhile Char.isDigit, r.dropWhile Char.isDigit)
      | r => ([], r)
    if whole.isEmpty && fraction.isEmpty then none
    else
      let digits := Decimal.value (whole ++ fraction)
      let scaled (e : Int) := some (nearest negative digits (e - fraction.length))
      match afterFraction with
      | [] => scaled 0
      | e :: r =>
        if e = 'e' || e = 'E' then
          let (down, ds) := match r with
            | '-' :: ds => (true, ds)
            | '+' :: ds => (false, ds)
            | ds => (false, ds)
          if ds.isEmpty || !ds.all Char.isDigit then none
          else scaled (if down then -(Decimal.value ds : Int) else Decimal.value ds)
        else none

/-- The number that a literal spells, rounded by `nearest`. -/
def ofText? (nearest : Bool → Nat → Int → Binary64) (text : String) : Option Binary64 :=
  match text.toList with
  | '-' :: cs => ofUnsignedText? nearest true cs
  | '+' :: cs => ofUnsignedText? nearest false cs
  | cs => ofUnsignedText? nearest false cs

end Binary64

end SearchRequest
