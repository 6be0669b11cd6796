import SearchRequest.Build.Facets

/-!
# Search texts and their bindings

* `Build.bindEmptyAs` — what an empty search text matches, by name.
* `Build.parseBindings` — bindings from constraints, defaults and policies.
* `Build.searchText` — a search text with its bindings.
* `Build.parseFunction` — a constraint whose terms a library parses.
-/

namespace SearchRequest.Build

/-- What an empty search text matches, by name. -/
def bindEmptyAs (name : String) : Build Argument :=
  match EmptyPolicy.ofName? name with
  | some policy => .ok (.bindEmpty policy)
  | none => .error (.unrecognized "bind_empty_as" (.text name))

/-- What the arguments of `parseBindings` add up to. -/
structure BindingParts where
  /-- The constraints so far. -/
  constraints : List Constraint := []
  /-- The first default and the first policy. -/
  term : TermBinding := {}

/-- The parts with another argument: constraints are collected; of defaults and of policies the
first counts and later ones are passed over. -/
def BindingParts.add (p : BindingParts) : Argument → Build BindingParts
  | .query (.constraint c) => .ok { p with constraints := p.constraints ++ [c] }
  | .query (.default spec) =>
    .ok { p with term := { p.term with default := p.term.default.or (some spec) } }
  | .bindEmpty policy =>
    .ok { p with term := { p.term with empty := p.term.empty.or (some policy) } }
  | a => Argument.refuse "parse_bindings" a

/-- Bindings from constraints, defaults and policies. -/
def parseBindings (args : List Argument) : Build ParseBindings := do
  let p ← (Argument.spliceSole args).foldlM BindingParts.add {}
  .ok ⟨nonempty p.constraints, if p.term.isEmpty then none else some p.term⟩

/-- The search text with more bindings: the first that have constraints give the constraints, the
first that say something of other terms give that. -/
def addBindings (t : SearchText) : Argument → Build SearchText
  | .bindings b => .ok { t with constraint := t.constraint.or b.constraint, term := t.term.or b.term }
  | a => Argument.refuse "parsed_from" a

/-- A search text with its bindings. -/
def searchText (args : List Argument) : Build SearchText :=
  match Argument.spliceSole args with
  | [] => .error (.arity "parsed_from" "missing query text")
  | text :: rest => do
    let text ← text.asText "parsed_from"
    rest.foldlM addBindings { text := text }

/-- What the arguments of `parseFunction` after the first add up to. -/
structure ParseFunctionParts where
  /-- The name. -/
  name : Option String := none
  /-- Options. -/
  options : Option (List String) := none

/-- The parts with another argument, each kind of which counts the first time it comes. -/
def ParseFunctionParts.add (p : ParseFunctionParts) : Argument → Build ParseFunctionParts
  | .bind n => if p.name.isNone then .ok { p with name := some n }
      else Argument.refuse "parse_function" (.bind n)
  | .termOptions os => if p.options.isNone then .ok { p with options := some os }
      else Argument.refuse "parse_function" (.termOptions os)
  | a => Argument.refuse "parse_function" a

/-- A constraint whose terms are parsed by a function of a library file. -/
def parseFunction (args : List Argument) : Build Query :=
  match Argument.spliceSole args with
  | file :: second :: rest => do
    let file ← file.asText "parse_function"
    let p ← (second :: rest).foldlM ParseFunctionParts.add {}
    match p.name with
    | none => .error (.missingConstraintName "custom")
    | some name => do
      let f ← libraryFunction .query "parse" file
      .ok (.constraint ⟨name, .custom ⟨f, false, p.options⟩⟩)
  | _ => .error (.arity "parse_function" "requires a library and a constraint name binding")

end SearchRequest.Build
