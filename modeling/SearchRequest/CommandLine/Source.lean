import SearchRequest.Build.Clauses
import SearchRequest.Text.Blank
import SearchRequest.Yaml.Printer

/-!
# From source texts to requests

A source is a JSON or a YAML text that holds an object.  Its keys are sorted before the request is
read from it.

* `SourceReader` — how the decimals of JSON and the texts of YAML are read.
* `Failure` — why a request cannot be printed, and `Failure.message`, what is said about it.
* `Value.ofSource` — the value of a source.
* `ValueMap.ofSource` — the object of a source.
* `Request.ofSource` — the request of a source.
-/

namespace SearchRequest

/-- How the parts of a source are read. -/
structure SourceReader where
  /-- How the decimals of JSON are read. -/
  floats : FloatReader
  /-- The tree of a YAML text, if it is one. -/
  yaml? : String → Option Json

/-- Why a request cannot be printed. -/
inductive Failure where
  /-- A file cannot be read. -/
  | unreadable (file : String)
  /-- A text that starts with a brace is not JSON. -/
  | invalidJson
  /-- A text is neither JSON nor YAML. -/
  | invalidSource
  /-- A source holds something else than an object. -/
  | notObject (v : Value)
  /-- The options in a file cannot be taken. -/
  | inOptions (file : String) (cause : Failure)
  /-- An object is no request, or no options. -/
  | invalidDocument
  /-- A named case directly in another one has no YAML form. -/
  | nestedCases

/-- What is said about a failure. -/
def Failure.message : Failure → String
  | .unreadable file => "reading " ++ file
  | .invalidJson => "input is not valid JSON"
  | .invalidSource => "input is neither JSON nor YAML"
  | .notObject v => "expected an object, got " ++ v.tree.compact
  | .inOptions file cause => "reading options from " ++ file ++ ": " ++ cause.message
  | .invalidDocument => "invalid query document"
  | .nestedCases => "serializing nested enums in YAML is not supported yet"

/-- Whether a text starts with a brace, white space aside. -/
def startsWithBrace (text : String) : Bool :=
  (text.toList.dropWhile Text.isBlank).head? = some '\x7b'

section Sources

variable (ρ : SourceReader)

/-- The value of a source: JSON if it is, else YAML unless it starts with a brace. -/
def Value.ofSource (text : String) : Except Failure Value :=
  match Decoder.value.readText ρ.floats text with
  | .ok v => .ok v
  | .error _ =>
    if startsWithBrace text then .error .invalidJson
    else
      match ρ.yaml? text with
      | some j => .ok (Value.ofJson j)
      | none => .error .invalidSource

/-- The object of a source. -/
def ValueMap.ofSource (text : String) : Except Failure ValueMap := do
  let v ← Value.ofSource ρ text
  match v.object? with
  | some m => .ok m
  | none => .error (.notObject v)

/-- The request that an object with sorted keys describes. -/
def Request.ofSorted (m : ValueMap) : Except Failure Request :=
  (Request.ofText ρ.floats m.toValue.tree.compact).mapError fun _ => .invalidDocument

/-- The request of a source. -/
def Request.ofSource (text : String) : Except Failure Request := do
  Request.ofSorted ρ (← ValueMap.ofSource ρ text)

end Sources

end SearchRequest
