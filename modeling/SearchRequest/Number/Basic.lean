import SearchRequest.Number.Layout

/-!
# Numeric literals

A numeric literal keeps the kind in which its author wrote it, so that a weight of `2` is written
as `2` and one of `2.0` as `2.0`.

* `Number` — a signed integer, an unsigned one, or a floating-point number.
* `Number.ofInt` — an integer literal: signed where it fits, else unsigned where it fits, else
  floating.
* `Number.held` — a literal as a JSON value keeps it.
* `Number.same` — equality: of one kind and of one value.
* `Number.display` — the text for a reader of prose.
* `Number.toUInt64?` — the whole number in the unsigned 64-bit range that a literal denotes.
-/

namespace SearchRequest

/-- A numeric literal. -/
inductive Number where
  /-- A signed integer. -/
  | signed (n : Int64)
  /-- An unsigned integer, used above the signed range. -/
  | unsigned (n : UInt64)
  /-- A floating-point number. -/
  | float (x : Binary64)
  deriving DecidableEq, Repr

namespace Number

/-- The literal for an integer: signed where it fits, else unsigned where it fits, else the
nearest floating-point number. -/
def ofInt (n : Int) : Number :=
  if -9223372036854775808 ≤ n ∧ n < 9223372036854775808 then .signed (Int64.ofInt n)
  else if 0 ≤ n ∧ n < 18446744073709551616 then .unsigned (UInt64.ofNat n.toNat)
  else .float (Binary64.ofDecimal (n < 0) n.natAbs 0)

/-- The literal for a page number or any other unsigned word. -/
def ofUInt64 (n : UInt64) : Number := ofInt n.toNat

/-- The literal as a JSON value keeps it: unsigned above the signed range only. -/
def held : Number → Number
  | .unsigned n => ofUInt64 n
  | n => n

/-- Equality: of one kind and of one value. -/
def same : Number → Number → Bool
  | .signed m, .signed n => m == n
  | .unsigned m, .unsigned n => m == n
  | .float x, .float y => x.same y
  | _, _ => false

instance : BEq Number := ⟨same⟩

/-- Whether the literal is an integer or a finite floating-point number. -/
def isFinite : Number → Bool
  | .float x => x.isFinite
  | _ => true

/-- The text of a literal, its floating-point numbers laid out as told. -/
def text (layout : Layout) : Number → List Char
  | .signed n => Decimal.integer n.toInt
  | .unsigned n => Decimal.digits n.toNat
  | .float x => layout.text x

/-- The text for a reader of prose. -/
def display (n : Number) : String := String.ofList (n.text .plain)

/-- The whole number in the unsigned 64-bit range that a literal denotes.  A floating-point number
is compared with two to the 64, the nearest one to the end of the range, and the number two to the
64 itself is cut to the end of the range. -/
def toUInt64? : Number → Option UInt64
  | .signed n => if 0 ≤ n.toInt then some (UInt64.ofNat n.toInt.toNat) else none
  | .unsigned n => some n
  | .float x =>
    match x.whole? with
    | some n =>
      if n ≤ 18446744073709551616 then some (UInt64.ofNat (min n 18446744073709551615)) else none
    | none => none

end Number

end SearchRequest
