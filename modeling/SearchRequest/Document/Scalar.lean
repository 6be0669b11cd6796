import SearchRequest.Document.Node
import SearchRequest.Json.Fields
import SearchRequest.Json.Value

/-!
# Literal criteria

* `Number.node`, `Decoder.number` — a numeric literal, written and read.
* `Scalar` — one literal that a word, value, range or bucket is compared with.
-/

namespace SearchRequest

/-- A numeric literal as it is written. -/
def Number.node (n : Number) : Node := .number n

/-- A numeric literal. -/
def Decoder.number : Decoder Number := fun _ d => do
  match ← settled d with
  | .number n => .ok n
  | _ => .error .mismatch

/-- A literal criterion. -/
inductive Scalar where
  /-- The value `null`. -/
  | null
  /-- A truth value. -/
  | bool (b : Bool)
  /-- A number. -/
  | number (n : Number)
  /-- A text. -/
  | text (s : String)
  deriving BEq, DecidableEq, Repr

namespace Scalar

/-- The text of a text literal. -/
def text? : Scalar → Option String
  | .text s => some s
  | _ => none

/-- A literal as it is written. -/
def node : Scalar → Node
  | .null => .null
  | .bool b => .bool b
  | .number n => .number n
  | .text s => .string s

/-- The literal that a JSON tree stands for, if it is neither an array nor an object. -/
def ofJson? : Json → Option Scalar
  | .null => some .null
  | .bool b => some (.bool b)
  | .number n => some (.number n)
  | .string s => some (.text s)
  | _ => none

/-- A literal, read. -/
def decoder : Decoder Scalar := fun _ d => do
  match ofJson? (← Decoder.settled d) with
  | some s => .ok s
  | none => .error .mismatch

end Scalar

/-- A list of option names, or of other strings. -/
def Decoder.strings : Decoder (List String) := Decoder.list Decoder.string

end SearchRequest
