import SearchRequest.Build.Facets

/-!
# Sort keys and the shape of results

* `Build.sort` — a sort key.
* `Build.transform`, `Build.extract`, `Build.snippet` — the shape of each result.
-/

namespace SearchRequest.Build

/-! ## Sort keys -/

/-- What the arguments of `sort` after the first add up to; a later direction or datatype takes
the place of an earlier one. -/
def addToSort (k : SortKey) : Argument → Build SortKey
  | .text s =>
    match Direction.ofName? s with
    | some d => .ok { k with direction := some d }
    | none =>
      if !k.isScore && isDatatypeLike s then .ok { k with datatype := some s }
      else .error (.unrecognized "sort" (.text s))
  | .datatype d =>
    if k.isScore then Argument.refuse "sort" (.datatype d)
    else .ok { k with datatype := some d.name, collation := d.collation }
  | a => Argument.refuse "sort" a

/-- A sort key: an index or the relevance, then a direction and, for an index, a datatype. -/
def sort (args : List Argument) : Build SortKey :=
  match Argument.spliceSole args with
  | [] => .error (.arity "sort" "missing index or score")
  | .score method :: rest => rest.foldlM addToSort { score := some method }
  | first :: rest => do
    let index ← first.asIndex "sort"
    rest.foldlM addToSort { index := IndexFields.of index }

/-! ## Transforms -/

/-- An installed transform with its parameters. -/
def transform (name : String) (params : Option ValueMap) : Build Transform :=
  if name = "" then .error (.arity "transform" "missing transform name") else .ok ⟨name, params⟩

/-! ## Extracts -/

/-- The fields of an extract's configuration. -/
def extractFields : Fields Extract :=
  Extract.mk <$> Fields.required "paths" Options.oneOrMany <*>
    Fields.optional "namespaces" Decoder.stringMap <*>
    Fields.optional "selected" ExtractSelection.decoder

/-- The extract that a configuration describes; it may have no other keys. -/
def extractOfConfig (v : Value) : Build Extract :=
  let known := match v.object? with
    | some m => m.entries.all fun e => extractFields.names.contains e.1
    | none => true
  if known then (Decoder.readJson extractFields.record v.tree).mapError .unreadable
  else .error (.unreadable .mismatch)

/-- The parts of each result to return: paths as texts, or a configuration. -/
def extract (args : List Argument) : Build Extract :=
  match Argument.spliceSole args with
  | [] => .error (.arity "extract" "missing paths")
  | [.json v] => extractOfConfig v
  | args => do
    let paths ← args.mapM (Argument.asText "extract")
    .ok { paths := paths }

/-! ## Snippets -/

/-- The names of the snippeters that are built in. -/
def builtinSnippeter? : String → Option String
  | "empty" => some "empty-snippet"
  | "metadata" => some "metadata-snippet"
  | "snippet" => some "snippet"
  | _ => none

/-- What the arguments of `snippet` add up to. -/
structure SnippetParts where
  /-- The snippet so far. -/
  snippet : Snippet := { apply := "snippet" }
  /-- Whether a name has been given. -/
  named : Bool := false

namespace SnippetParts

/-- The snippet with an option.  A text under the key of one of the snippet's own fields sets
the field. -/
def addOption (s : Snippet) (key : String) (v : Value) : Snippet :=
  match v.tree.string?, key with
  | some text, "apply" => { s with apply := text }
  | some text, "ns" => { s with ns := some text }
  | some text, "at" => { s with location := some text }
  | _, key => { s with options := s.options.insert key v }

/-- The snippet with a name: one that is built in, or the file of a library. -/
def setName (s : Snippet) (name : String) : Build Snippet :=
  match builtinSnippeter? name with
  | some builtin => .ok { s with apply := builtin }
  | none => do
    let f ← libraryFunction .snippet "snippet" name
    .ok { s with apply := f.apply, ns := some f.ns, location := some f.location }

/-- The parts with another argument: the first text is the name, an object holds options. -/
def add (p : SnippetParts) : Argument → Build SnippetParts
  | .text name =>
    if p.named then Argument.refuse "snippet" (.text name)
    else do
      let s ← setName p.snippet name
      .ok { snippet := s, named := true }
  | .json v =>
    match v.object? with
    | some m =>
      .ok { p with snippet := m.toList.foldl (fun s (key, v) => addOption s key v) p.snippet }
    | none => Argument.refuse "snippet" (.json v)
  | a => Argument.refuse "snippet" a

end SnippetParts

/-- How each result is summarised. -/
def snippet (args : List Argument) : Build Snippet := do
  let p ← (Argument.spliceSole args).foldlM SnippetParts.add {}
  .ok p.snippet

end SearchRequest.Build
