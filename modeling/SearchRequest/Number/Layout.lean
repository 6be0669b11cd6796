import SearchRequest.Number.Shortest

/-!
# How a number of the 64-bit format is laid out

The digits are the shortest ones that read back; a `Layout` says how they are arranged.

* `Layout` — the window of positional notation, the marks, and the tie rule.
* `Layout.json`, `Layout.yaml`, `Layout.plain`, `Layout.inspected` — the four layouts in use.
* `Layout.text` — the text of a number.
-/

namespace SearchRequest

/-- How the digits of a number are arranged. -/
structure Layout where
  /-- The exponents `t`, of a number `0.d₁d₂… * 10 ^ t`, that are written without an exponent;
  `none` when all are. -/
  positional : Option (Int × Int)
  /-- Whether a whole number keeps `.0`. -/
  keepsPoint : Bool
  /-- Whether a positive exponent carries a plus sign. -/
  marksPlus : Bool
  /-- Which way an exact tie between two shortest decimals goes. -/
  tie : Shortest.Tie

namespace Layout

/-- The layout of a JSON number: positional from `1e-5` up to, not including, `1e16`. -/
def json : Layout := ⟨some (-4, 16), true, true, .toEven⟩

/-- The layout of a YAML number: as in JSON, without the plus sign. -/
def yaml : Layout := ⟨some (-4, 16), true, false, .toEven⟩

/-- The layout for a reader of prose: never an exponent, and no point on a whole number. -/
def plain : Layout := ⟨none, false, false, .up⟩

/-- The layout in error messages: positional from `1e-4` up to, not including, `1e16`. -/
def inspected : Layout := ⟨some (-3, 16), true, false, .up⟩

/-- Digits without the zeros at their end. -/
def dropTrailingZeros (ds : List Char) : List Char :=
  (ds.reverse.dropWhile (· == '0')).reverse

/-- The number `0.d₁d₂… * 10 ^ t` without an exponent. -/
def positionalText (keepsPoint : Bool) (ds : List Char) (t : Int) : List Char :=
  let point := t.toNat
  if t ≤ 0 then '0' :: '.' :: List.replicate (-t).toNat '0' ++ ds
  else if ds.length ≤ point then
    ds ++ List.replicate (point - ds.length) '0' ++ (if keepsPoint then ['.', '0'] else [])
  else ds.take point ++ '.' :: ds.drop point

/-- The number `0.d₁d₂… * 10 ^ t` with an exponent. -/
def exponentText (marksPlus : Bool) (ds : List Char) (t : Int) : List Char :=
  let fraction := match ds.drop 1 with
    | [] => []
    | r => '.' :: r
  let sign := if marksPlus && 0 < t - 1 then ['+'] else []
  ds.take 1 ++ fraction ++ 'e' :: sign ++ Decimal.integer (t - 1)

/-- Whether the exponent `t` is written without an exponent. -/
def isPositional (l : Layout) (t : Int) : Bool :=
  match l.positional with
  | none => true
  | some (low, high) => low ≤ t && t ≤ high

/-- The text of the positive number at a place. -/
def positiveText (l : Layout) (place : Nat) : List Char :=
  let (digits, exponent) := Shortest.ofPlace l.tie place
  let all := Decimal.digits digits
  let t := all.length + exponent
  let ds := dropTrailingZeros all
  if l.isPositional t then positionalText l.keepsPoint ds t else exponentText l.marksPlus ds t

/-- The text of a number. -/
def text (l : Layout) : Binary64 → List Char
  | .finite negative place =>
    let size := if place.val = 0 then (if l.keepsPoint then ['0', '.', '0'] else ['0'])
      else l.positiveText place
    if negative then '-' :: size else size
  | .infinite negative => if negative then "-inf".toList else "inf".toList
  | .nan => "NaN".toList

end Layout

end SearchRequest
