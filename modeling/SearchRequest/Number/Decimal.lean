/-!
# Decimal digits

Natural numbers and their decimal digits, as lists of characters.

* `digits n` — the digits of `n`, the most significant one first.
* `value cs` — the number that a list of digits denotes.
* `integer n` — the digits of an integer, with a minus sign when it is negative.
-/

namespace SearchRequest.Decimal

/-- The character of a digit below ten. -/
def digit (d : Nat) : Char := Char.ofNat (48 + d)

/-- The number that a digit character denotes. -/
def digitValue (c : Char) : Nat := c.toNat - 48

/-- The decimal digits of `n`, the most significant one first. -/
def digits (n : Nat) : List Char :=
  if n < 10 then [digit n] else digits (n / 10) ++ [digit (n % 10)]
termination_by n

/-- The number that a list of digits denotes. -/
def value (cs : List Char) : Nat := cs.foldl (fun n c => 10 * n + digitValue c) 0

/-- The digits of an integer, after a minus sign when it is negative. -/
def integer (n : Int) : List Char :=
  if n < 0 then '-' :: digits n.natAbs else digits n.natAbs

/-- The digits of `n`, filled up with zeros on the left to at least `width` characters. -/
def padded (width n : Nat) : List Char :=
  let ds := digits n
  List.replicate (width - ds.length) '0' ++ ds

end SearchRequest.Decimal
