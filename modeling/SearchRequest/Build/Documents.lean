import SearchRequest.Build.Binding

/-!
# Sets of documents

* `Build.collection`, `Build.directory`, `Build.document` — documents by where they are.
* `Build.scope` — criteria inside a property or element.
* `Build.fragmentScope` — documents or properties, by name.
-/

namespace SearchRequest.Build

/-- Documents or properties, by name. -/
def fragmentScope (name : String) : Build FragmentScope :=
  match FragmentScope.ofName? name with
  | some s => .ok s
  | none => .error (.unrecognized "fragment_scope" (.text name))

/-- The texts among the arguments, and in lists among them. -/
def uris (combinator : String) (args : List Argument) : Build (List String) :=
  (Argument.flatten args).mapM (Argument.asText combinator)

/-! ## Collections -/

/-- Whether an argument binds a name. -/
def isBind : Argument → Bool
  | .bind _ => true
  | _ => false

/-- What the arguments of a collection constraint add up to. -/
structure CollectionParts where
  /-- The name. -/
  name : Option String := none
  /-- The part at the start of collection names that is left out. -/
  start : Option String := none

/-- The parts with another argument: a name and a text count the first time they come. -/
def CollectionParts.add (p : CollectionParts) : Argument → Build CollectionParts
  | .bind n => if p.name.isNone then .ok { p with name := some n }
      else Argument.refuse "collection" (.bind n)
  | .text s => if p.start.isNone then .ok { p with start := some s }
      else Argument.refuse "collection" (.text s)
  | a => Argument.refuse "collection" a

/-- Documents in any of the collections; without arguments, the declaration of the collection
index; with a binding among at most two arguments, a constraint. -/
def collection (args : List Argument) : Build Query := do
  let args := Argument.spliceSole args
  if args.isEmpty then .ok (.index .collection)
  else if args.length ≤ 2 && args.any isBind then do
    let p ← args.foldlM CollectionParts.add {}
    match p.name with
    | some name => .ok (.constraint ⟨name, .collection p.start⟩)
    | none => .error (.arity "collection" "missing binding")
  else do
    let us ← uris "collection" args
    .ok (.criteria (.collection us))

/-! ## Directories and documents -/

/-- What the arguments of `directory` add up to. -/
structure DirectoryParts where
  /-- The directories so far. -/
  uris : List String := []
  /-- Whether what is below them matches too. -/
  infinite : Option Bool := none

/-- The parts with another argument: the first truth value says whether what is below the
directories matches too, everything else is a directory. -/
def DirectoryParts.add (p : DirectoryParts) (a : Argument) : Build DirectoryParts :=
  match a, p.infinite with
  | .bool b, none => .ok { p with infinite := some b }
  | a, _ => do
    let u ← a.asText "directory"
    .ok { p with uris := p.uris ++ [u] }

/-- Documents in any of the directories. -/
def directory (args : List Argument) : Build Query := do
  let p ← (Argument.flatten (Argument.spliceSole args)).foldlM DirectoryParts.add {}
  .ok (.criteria (.directory p.uris p.infinite))

/-- Documents with any of the addresses. -/
def document (args : List Argument) : Build Query := do
  let us ← uris "document" (Argument.spliceSole args)
  .ok (.criteria (.document us))

/-! ## Containers -/

/-- What the arguments of `scope` after the first add up to. -/
structure ScopeParts where
  /-- Documents or properties. -/
  fragmentScope : Option FragmentScope := none
  /-- The name. -/
  name : Option String := none
  /-- The criteria. -/
  criteria : Option Criteria := none

/-- The parts with another argument, each kind of which counts the first time it comes. -/
def ScopeParts.add (p : ScopeParts) : Argument → Build ScopeParts
  | .fragmentScope s => if p.fragmentScope.isNone then .ok { p with fragmentScope := some s }
      else Argument.refuse "scope" (.fragmentScope s)
  | .bind n => if p.name.isNone then .ok { p with name := some n }
      else Argument.refuse "scope" (.bind n)
  | .query q =>
    if p.criteria.isNone then
      match q with
      | .criteria c => .ok { p with criteria := some c }
      | q => .error (.unrecognized "scope" (.query q))
    else Argument.refuse "scope" (.query q)
  | a => Argument.refuse "scope" a

/-- Criteria inside a property or element, or a constraint on it. -/
def scope (args : List Argument) : Build Query :=
  match Argument.spliceSole args with
  | [] => .error (.arity "scope" "missing container")
  | first :: rest => do
    let index ← first.asIndex "scope"
    let p ← rest.foldlM ScopeParts.add {}
    let spec : ContainerSpec := ⟨IndexFields.container index, p.fragmentScope⟩
    criteriaOrBinding "scope" index (p.criteria.map (.container spec)) p.name none
      (.container spec)

end SearchRequest.Build
