import SearchRequest.Json.Basic

/-!
# Plain scalars of YAML

* `Yaml.integer?` — the integer that a plain scalar spells, in base ten, sixteen, eight or two.
* `Yaml.plainValue?` — the value that a plain scalar stands for: `null`, a truth value, a number,
  or else the text itself.
* `Yaml.staysText` — whether a text, written plainly, is read as that text.
-/

namespace SearchRequest.Yaml

/-- Whether a plain scalar stands for `null`. -/
def isNullWord (cs : List Char) : Bool :=
  ["", "~", "null", "Null", "NULL"].contains (String.ofList cs)

/-- The truth value that a plain scalar stands for. -/
def truth? (cs : List Char) : Option Bool :=
  if ["true", "True", "TRUE"].contains (String.ofList cs) then some true
  else if ["false", "False", "FALSE"].contains (String.ofList cs) then some false
  else none

/-! ## Integers -/

/-- The value of a digit in any base up to sixteen. -/
def digitValue? (c : Char) : Option Nat :=
  if c.isDigit then some (c.toNat - 48)
  else if 'a' ≤ c ∧ c ≤ 'f' then some (c.toNat - 87)
  else if 'A' ≤ c ∧ c ≤ 'F' then some (c.toNat - 55)
  else none

/-- The number that digits of a base denote; there must be at least one. -/
def magnitude? (base : Nat) : List Char → Option Nat
  | [] => none
  | cs => cs.foldlM (fun n c => (digitValue? c).bind fun d =>
      if d < base then some (base * n + d) else none) 0

/-- Whether digits, after a sign or none, start with a zero that is not the only one: such a
scalar is a text. -/
def hasLeadingZero (cs : List Char) : Bool :=
  let ds := match cs with
    | '-' :: ds => ds
    | '+' :: ds => ds
    | ds => ds
  match ds with
  | '0' :: d :: rest => (d :: rest).all Char.isDigit
  | _ => false

/-- The size of an integer after its sign. -/
def size? (cs : List Char) : Option Nat :=
  match cs with
  | '0' :: 'x' :: ds => magnitude? 16 ds
  | '0' :: 'o' :: ds => magnitude? 8 ds
  | '0' :: 'b' :: ds => magnitude? 2 ds
  | ds => if hasLeadingZero ds then none else magnitude? 10 ds

/-- The integer that a plain scalar spells. -/
def integer? : List Char → Option Int
  | '-' :: cs => (size? cs).map fun n => -(n : Int)
  | '+' :: cs => (size? cs).map fun n => (n : Int)
  | cs => (size? cs).map fun n => (n : Int)

/-! ## Numbers with a point or an exponent -/

/-- The number that a plain scalar spells; infinities and the result that is not a number are
spelled with a leading point. -/
def float? (cs : List Char) : Option Binary64 :=
  let unsigned := match cs with
    | '+' :: rest => rest
    | cs => cs
  let word := String.ofList cs
  if cs.head? = some '+' && (unsigned.head? = some '+' || unsigned.head? = some '-') then none
  else if [".inf", ".Inf", ".INF"].contains (String.ofList unsigned) then some (.infinite false)
  else if ["-.inf", "-.Inf", "-.INF"].contains word then some (.infinite true)
  else if [".nan", ".NaN", ".NAN"].contains word then some .nan
  else (Binary64.ofText? Binary64.ofDecimal (String.ofList unsigned)).filter Binary64.isFinite

/-! ## Values -/

/-- The value of an integer; one that needs more than 64 bits is refused. -/
def integerValue? (n : Int) : Option Json :=
  if -9223372036854775808 ≤ n ∧ n < 18446744073709551616 then some (.number (Number.ofInt n))
  else none

/-- Whether an integer is held in 128 bits.  A larger one is read as a number with an exponent. -/
def isWide (n : Int) : Bool :=
  decide (-170141183460469231731687303715884105728 ≤ n ∧
    n < 340282366920938463463374607431768211456)

/-- The value of a scalar that is no integer: a number, `null` where the number is not finite, or
else the text. -/
def otherValue (cs : List Char) : Json :=
  match (if hasLeadingZero cs then none else float? cs) with
  | some x => if x.isFinite then .number (.float x) else .null
  | none => .string (String.ofList cs)

/-- The value that a plain scalar stands for, unless it is an integer of a size that is refused. -/
def plainValue? (cs : List Char) : Option Json :=
  if isNullWord cs then some .null
  else
    match truth? cs with
    | some b => some (.bool b)
    | none =>
      match integer? cs with
      | some n => if isWide n then integerValue? n else some (otherValue cs)
      | none => some (otherValue cs)

/-- Whether a text, written plainly, is read as that text; digits after a zero are taken for
something else by other readers. -/
def staysText (cs : List Char) : Bool :=
  match plainValue? cs with
  | some (.string _) => !hasLeadingZero cs
  | _ => false

end SearchRequest.Yaml
