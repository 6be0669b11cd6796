import SearchRequest.Number.Basic

/-!
# Literals from machine integers

* `WordType` — the types of machine integers, by sign and width.
* `WordType.Holds` — the integers that a type has.
* `Word` — an integer of a type.
* `Number.ofWord` — the literal for a machine integer, whose kind depends on its type.
-/

namespace SearchRequest

/-- How wide a machine integer is.  One that is as wide as an address has 64 bits. -/
inductive WordWidth where
  /-- Eight bits. -/
  | byte
  /-- Sixteen bits. -/
  | short
  /-- Thirty-two bits. -/
  | single
  /-- Sixty-four bits. -/
  | double
  deriving DecidableEq, Repr

/-- A type of machine integers. -/
structure WordType where
  /-- Whether it has negative integers. -/
  isSigned : Bool
  /-- How wide its integers are. -/
  width : WordWidth
  deriving DecidableEq, Repr

/-- How many bits there are. -/
def WordWidth.bits : WordWidth → Nat
  | byte => 8
  | short => 16
  | single => 32
  | double => 64

namespace WordType

/-- The least integer of a type. -/
def least (t : WordType) : Int :=
  if t.isSigned then -(Nat.pow 2 (t.width.bits - 1) : Nat) else 0

/-- The integer after the greatest one of a type. -/
def bound (t : WordType) : Int :=
  if t.isSigned then (Nat.pow 2 (t.width.bits - 1) : Nat) else (Nat.pow 2 t.width.bits : Nat)

/-- A type has an integer. -/
def Holds (t : WordType) (n : Int) : Prop := t.least ≤ n ∧ n < t.bound

instance (t : WordType) (n : Int) : Decidable (t.Holds n) :=
  inferInstanceAs (Decidable (_ ∧ _))

/-- Whether all integers of a type are signed integers of 64 bits. -/
def fitsSigned (t : WordType) : Bool := t.isSigned || t.width != .double

end WordType

/-- A machine integer. -/
structure Word where
  /-- Its type. -/
  type : WordType
  /-- The integer. -/
  value : Int
  /-- The type has it. -/
  holds : type.Holds value

/-- The literal for a machine integer: a signed one if the type allows no other, and else a signed
one if the integer does. -/
def Number.ofWord (w : Word) : Number :=
  if w.type.fitsSigned then .signed (Int64.ofInt w.value)
  else if w.value < 9223372036854775808 then .signed (Int64.ofInt w.value)
  else .unsigned (UInt64.ofNat w.value.toNat)

end SearchRequest
