import SearchRequest.Json.Parser

/-!
# Reading values from drafts

A decoder takes a draft part by part, in the order of the text, so the error it reports is the
first one in that order, whether it is a fault of the text or a part of the wrong shape.

* `ReadError` — why a value could not be read.
* `Origin` — whether a draft comes from a text, from a tree that is held already, or from entries
  that were set aside while a record was read.
* `Decoder` — a way of reading a value from a draft.
* `Decoder.readText`, `Decoder.readJson` — reading a whole text, or a held tree.
-/

namespace SearchRequest

/-- Why a value could not be read. -/
inductive ReadError where
  /-- The text is not JSON, or holds what cannot be represented. -/
  | malformed
  /-- The text ends too early. -/
  | truncated
  /-- The text is JSON of another shape. -/
  | mismatch
  /-- The text is JSON of another shape, and there is more to say about it. -/
  | refused (message : String)
  deriving DecidableEq, Repr

/-- A fault of the text as a reason. -/
def ReadError.ofFault : Fault → ReadError
  | .malformed => .malformed
  | .truncated => .truncated

/-- Where a draft comes from. -/
inductive Origin where
  /-- From a text that is being read. -/
  | text
  /-- From a tree that is held already. -/
  | held
  /-- From entries that were set aside for a part of the record that is being read. -/
  | buffered
  deriving DecidableEq, Repr

/-- A way of reading a value from a draft. -/
abbrev Decoder (α : Type) := Origin → Draft → Except ReadError α

namespace Decoder

variable {α β : Type}

/-- The whole part as a JSON tree. -/
def settled (d : Draft) : Except ReadError Json := d.settle.mapError ReadError.ofFault

/-- The error of a part that has another shape than the one that was asked for.  A leaf is taken
first, so a fault in it comes first. -/
def mismatchOf : Draft → ReadError
  | .flawed flaw => ReadError.ofFault flaw.wanted
  | _ => .mismatch

/-- What is left over after the last expected part: in a text it stands where the closing bracket
is due. -/
def leftover : Origin → ReadError
  | .text => .malformed
  | .held | .buffered => .mismatch

/-! ## Leaves -/

/-- A string. -/
def string : Decoder String
  | _, .string s => .ok s
  | _, d => .error (mismatchOf d)

/-- A truth value. -/
def bool : Decoder Bool
  | _, .bool b => .ok b
  | _, d => .error (mismatchOf d)

/-- The literal `null`. -/
def null : Decoder Unit
  | _, .null => .ok ()
  | _, d => .error (mismatchOf d)

/-- An integer from zero up to, not including, `bound`. -/
def natBelow (bound : Nat) : Decoder Nat
  | _, .number (.signed n) =>
    if 0 ≤ n.toInt ∧ n.toInt.toNat < bound then .ok n.toInt.toNat else .error .mismatch
  | _, .number (.unsigned n) => if n.toNat < bound then .ok n.toNat else .error .mismatch
  | _, d => .error (mismatchOf d)

/-- An integer of 64 unsigned bits. -/
def uint64 : Decoder UInt64 := fun o d =>
  (natBelow 18446744073709551616 o d).map UInt64.ofNat

/-- An integer of 32 unsigned bits. -/
def uint32 : Decoder UInt32 := fun o d => (natBelow 4294967296 o d).map UInt32.ofNat

/-! ## Containers -/

/-- What `null` or anything else stands for. -/
def optional (item : Decoder α) : Decoder (Option α)
  | _, .null => .ok none
  | o, d => (item o d).map some

/-- The items of an array one after the other, then its ending. -/
def items (item : Decoder α) (o : Origin) : List Draft → Ending → Except ReadError (List α)
  | [], .closed => .ok []
  | [], .broken f => .error (ReadError.ofFault f)
  | d :: rest, ending => do
    let a ← item o d
    let as ← items item o rest ending
    .ok (a :: as)

/-- An array of items of one kind. -/
def list (item : Decoder α) : Decoder (List α)
  | o, .array ds ending => items item o ds ending
  | _, d => .error (mismatchOf d)

/-- The entries of an object one after the other, then its ending. -/
def entries (item : Decoder α) (o : Origin) :
    List (Draft × Draft) → Ending → Except ReadError (List (String × α))
  | [], .closed => .ok []
  | [], .broken f => .error (ReadError.ofFault f)
  | (k, d) :: rest, ending => do
    let name ← k.key.mapError ReadError.ofFault
    let a ← item o d
    let as ← entries item o rest ending
    .ok ((name, a) :: as)

/-! ## Choices -/

/-- A value of any of several shapes.  The part is held first, whole; then the shapes are tried in
turn, and what one of them would have said about it is not told. -/
def firstOf (shapes : List (Decoder α)) : Decoder α := fun _ d => do
  let j ← settled d
  match shapes.findSome? (fun shape => (shape .held j.draft).toOption) with
  | some a => .ok a
  | none => .error .mismatch

/-- The decoder that is filed under a name. -/
def caseNamed? (name : String) : List (String × Decoder α) → Option (Decoder α)
  | [] => none
  | (n, decoder) :: rest => if n = name then some decoder else caseNamed? name rest

/-- What stands under the name of a case without content: `null` or, among entries that were set
aside, an empty object. -/
def bare (a : α) : Decoder α
  | .buffered, .object [] .closed => .ok a
  | o, d => (null o d).map fun _ => a

/-- The name of a case, where a key is due. -/
def caseName : Draft → Except ReadError String
  | .string s => .ok s
  | .flawed flaw => .error (ReadError.ofFault flaw.asCase)
  | _ => .error .mismatch

/-- One of several named cases, written as an object with the name as its only key.  A case of
`bare`s may also be written as its name alone. -/
def oneOf (bares : List (String × α)) (cases : List (String × Decoder α)) : Decoder α
  | _, .string s =>
    match bares.find? (fun c => c.1 = s) with
    | some c => .ok c.2
    | none => .error .mismatch
  | _, .flawed flaw => .error (ReadError.ofFault flaw.asCase)
  | .held, .object [(k, d)] _ => named .held k d
  | .buffered, .object [(k, d)] _ => named .buffered k d
  | .text, .object [] .closed => .error .malformed
  | .text, .object [] (.broken f) => .error (ReadError.ofFault f)
  | .text, .object ((k, d) :: rest) ending => do
    let a ← named .text k d
    if !rest.isEmpty then .error .malformed
    else
      match ending with
      | .closed => .ok a
      | .broken f => .error (ReadError.ofFault f)
  | o, _ => .error (leftover o)
where
  /-- The case that a key names. -/
  named (o : Origin) (k d : Draft) : Except ReadError α := do
    let name ← caseName k
    match caseNamed? name (cases ++ bares.map fun c => (c.1, bare c.2)) with
    | some decoder => decoder o d
    | none => .error .mismatch

/-- One of several names without content. -/
def oneOfNames (bares : List (String × α)) : Decoder α := oneOf bares []

/-! ## Whole texts and trees -/

/-- The value that a text holds, with nothing but blanks after it. -/
def readText (ρ : FloatReader) (decoder : Decoder α) (text : String) : Except ReadError α := do
  let reading := Reading.ofText ρ text
  let a ← decoder .text reading.root
  if reading.trailing then .error .malformed else .ok a

/-- The value that a held tree stands for. -/
def readJson (decoder : Decoder α) (j : Json) : Except ReadError α := decoder .held j.draft

end Decoder

end SearchRequest
