import SearchRequest.CommandLine.Invocation
import SearchRequest.CommandLine.Source

/-!
# Running a command line

* `Request.withPage` — a request with the page that a command line asks for.
* `Request.printed` — a request in the format that a command line asks for.
* `Invocation.run` — the whole: what is printed, or why not.
-/

namespace SearchRequest

/-- The arguments of the page that a command line asks for.  A length alone counts from the first
result. -/
def pageArguments : Option UInt64 → Option UInt64 → Option (List Argument)
  | some start, some length =>
    some [.number (Number.ofUInt64 start), .number (Number.ofUInt64 length)]
  | some start, none => some [.number (Number.ofUInt64 start)]
  | none, some length => some [.number (Number.ofUInt64 1), .number (Number.ofUInt64 length)]
  | none, none => none

namespace Request

/-- A request with the page that a command line asks for, in place of the one that it has. -/
def withPage (r : Request) (start length : Option UInt64) : Except Failure Request :=
  match pageArguments start length with
  | some args => (r.setSlice args).mapError fun _ => .invalidDocument
  | none => .ok r

/-- A request with the options that a file holds in place of those that it has. -/
def withOptionsFrom (ρ : SourceReader) (r : Request) (file : String) (text : Option String) :
    Except Failure Request := do
  match text with
  | none => .error (.unreadable file)
  | some text => do
    let config ← (ValueMap.ofSource ρ text).mapError (.inOptions file)
    (r.setOptions config).mapError fun _ => .invalidDocument

/-- A request in a format. -/
def printed (r : Request) (format : OutputFormat) (compact : Bool) : Except Failure String :=
  match format with
  | .json => .ok (if compact then r.text else r.json.pretty)
  | .yaml =>
    match r.node.yaml? with
    | some text => .ok text
    | none => .error .nestedCases

end Request

namespace Invocation

/-- What a command line prints, given the texts of its request and of its options; a text that
cannot be read is missing. -/
def run (ρ : SourceReader) (inv : Invocation) (input options : Option String) :
    Except Failure String := do
  match input with
  | none => .error (.unreadable (inv.input.getD "stdin"))
  | some text => do
    let r ← Request.ofSource ρ text
    let r ← match inv.options with
      | some file => r.withOptionsFrom ρ file options
      | none => .ok r
    let r ← r.withPage inv.start inv.length
    let output ← r.printed (inv.format.getD .json) inv.compact
    .ok (output ++ "\n")

end Invocation

end SearchRequest
