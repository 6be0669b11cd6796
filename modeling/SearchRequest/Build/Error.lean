import SearchRequest.Argument.Described

/-!
# Why a request cannot be built

* `Offender` — what a building function could not place.
* `BuildError` — the causes of failure.
* `BuildError.kind`, `BuildError.message` — the name of a cause, and what it says.
* `Build` — the result of a building function.
* `Argument.asText`, `Argument.asQuery`, `Argument.asScalar`, `Argument.asValue` — an argument
  that must be of one kind.
-/

namespace SearchRequest

/-- What a building function could not place. -/
inductive Offender where
  /-- An argument. -/
  | argument (a : Argument)
  /-- A text. -/
  | text (s : String)
  /-- A number. -/
  | number (n : Number)
  /-- A query. -/
  | query (q : Query)
  /-- A JSON value. -/
  | value (v : Value)

/-- An offender as an error message shows it. -/
def Offender.described : Offender → Described
  | .argument a => a.described
  | .text s => .quoted s
  | .number n => n.described
  | .query q => q.described
  | .value v => v.tree.described

/-- Why a request cannot be built. -/
inductive BuildError where
  /-- Too few or too many arguments. -/
  | arity (combinator explanation : String)
  /-- Both criteria and a binding. -/
  | conflictingBinding (combinator : String)
  /-- No constraint name is given, and the index has none to offer. -/
  | missingConstraintName (index : String)
  /-- The arguments of a bucket have none of its shapes. -/
  | malformedBucket
  /-- An argument fits none of the places of a building function. -/
  | unrecognized (combinator : String) (offender : Offender)
  /-- A file name without the extension of a library. -/
  | missingExtension (file : String)
  /-- A document or configuration that could not be read. -/
  | unreadable (error : ReadError)

/-- The result of a building function. -/
abbrev Build (α : Type) := Except BuildError α

namespace BuildError

/-- The name of a cause. -/
def kind : BuildError → String
  | .arity _ _ => "Arity"
  | .conflictingBinding _ => "ConflictingBinding"
  | .missingConstraintName _ => "MissingConstraintName"
  | .malformedBucket => "MalformedBucket"
  | .unrecognized _ _ => "UnrecognizedArgument"
  | .missingExtension _ => "MissingModuleExtension"
  | .unreadable _ => "Json"

/-- What a cause says; a document that could not be read says more only where there is more to say
than that. -/
def message : BuildError → Option String
  | .arity combinator explanation => some (combinator ++ ": " ++ explanation)
  | .conflictingBinding combinator => some (combinator ++ " has both binding and query")
  | .missingConstraintName index =>
    some ("could not default constraint name from " ++ index ++ " index")
  | .malformedBucket =>
    some "a bucket must have a name, a comparison, and bounds (with or without anchors)"
  | .unrecognized combinator offender =>
    some (combinator ++ ": unsupported parameter: " ++ offender.described.text)
  | .missingExtension file =>
    some ("library must have an extension of .xqy, .sjs, or .js: " ++ file)
  | .unreadable (.refused message) => some message
  | .unreadable _ => none

end BuildError

namespace Argument

/-- The error of an argument that fits nowhere. -/
def refuse {α : Type} (combinator : String) (a : Argument) : Build α :=
  .error (.unrecognized combinator (.argument a))

/-- An argument that must be a text. -/
def asText (combinator : String) : Argument → Build String
  | .text s => .ok s
  | a => refuse combinator a

/-- An argument that must be a query. -/
def asQuery (combinator : String) : Argument → Build Query
  | .query q => .ok q
  | a => refuse combinator a

/-- The literal that an argument stands for; an instant stands for its text. -/
def scalar? : Argument → Option Scalar
  | .null => some .null
  | .text s => some (.text s)
  | .number n => some (.number n)
  | .bool b => some (.bool b)
  | .instant t => some (.text t.millis)
  | _ => none

/-- An argument that must be a literal. -/
def asScalar (combinator : String) (a : Argument) : Build Scalar :=
  match a.scalar? with
  | some s => .ok s
  | none => refuse combinator a

mutual
/-- An argument that must be plain JSON. -/
def asValue (combinator : String) : Argument → Build Value
  | .json v => .ok v
  | .null => .ok Value.null
  | .text s => .ok (Value.string s)
  | .bool b => .ok (Value.bool b)
  | .number n => .ok (Value.number n)
  | .instant t => .ok (Value.string t.millis)
  | .list items => (asValues combinator items).map Value.array
  | a => refuse combinator a
/-- Arguments that must be plain JSON. -/
def asValues (combinator : String) : List Argument → Build (List Value)
  | [] => .ok []
  | a :: rest => do
    let v ← asValue combinator a
    let vs ← asValues combinator rest
    .ok (v :: vs)
end

/-- The number of an argument. -/
def number? : Argument → Option Number
  | .number n => some n
  | _ => none

/-- An argument that must be a number. -/
def asNumber (combinator : String) (a : Argument) : Build Number :=
  match a.number? with
  | some n => .ok n
  | none => refuse combinator a

end Argument

end SearchRequest
