import SearchRequest.Document.Library
import SearchRequest.Json.Printer
import SearchRequest.Text.Described

/-!
# The shape of results

* `Transform` — a function of the server that is applied to each result.
* `Extract` — the parts of each result to return.
* `Snippet` — how each result is summarised, with options that are not fixed in advance.
* `Json.described` — a JSON tree as an error message shows it.
-/

namespace SearchRequest

namespace Json

mutual
/-- A JSON tree as an error message shows it. -/
def described : Json → Described
  | .null => .word "Null"
  | .bool b => .tuple "Bool" [Described.bool b]
  | .number n => .tuple "Number" [.word (String.ofList (numberChars n))]
  | .string s => .tuple "String" [.quoted s]
  | .array items => .labelled "Array" (.list (describedItems items))
  | .object entries => .labelled "Object" (.map (describedEntries entries))
/-- The items of an array as an error message shows them. -/
def describedItems : List Json → List Described
  | [] => []
  | j :: rest => described j :: describedItems rest
/-- The entries of an object as an error message shows them. -/
def describedEntries : List (String × Json) → List (String × Described)
  | [] => []
  | (k, j) :: rest => (k, described j) :: describedEntries rest
end

end Json

/-! ## Transforms -/

/-- A function of the server that is applied to each result. -/
structure Transform where
  /-- Its name. -/
  name : String
  /-- Its parameters. -/
  params : Option ValueMap
  deriving BEq

namespace Transform

/-- A transform as it is written: a list of its name and, if there are any, its parameters. -/
def node (t : Transform) : Node :=
  .list (.string t.name :: match t.params with
    | none => []
    | some params => [(Json.object params.entries).node])

/-- The transform that a list of values stands for. -/
def ofValues (items : List Value) : Except ReadError Transform :=
  match items.head?.bind (fun v => v.tree.string?) with
  | none =>
    .error (.refused ("transform name must be a string, got " ++
      (Described.option (fun v : Value => v.tree.described) items.head?).text))
  | some name =>
    let rest := items.drop 1
    let params : Except ReadError (Option ValueMap) :=
      match rest.head? with
      | none => .ok none
      | some v =>
        match v.tree, v.object? with
        | .null, _ => .ok none
        | _, some params => .ok (some params)
        | j, none =>
          .error (.refused ("transform parameters must be an object, got " ++ j.compact))
    match params with
    | .error e => .error e
    | .ok params =>
      if 1 < rest.length then
        .error (.refused "transform takes a name and optional parameters")
      else .ok ⟨name, params⟩

/-- A transform, read. -/
def decoder : Decoder Transform := fun o d => do
  ofValues (← Decoder.list Decoder.value o d)

end Transform

/-! ## Extracts -/

/-- Which parts of a result are returned. -/
inductive ExtractSelection where
  /-- Those on the paths. -/
  | include
  /-- Those on the paths, with what holds them. -/
  | includeWithAncestors
  /-- All but those on the paths. -/
  | exclude
  /-- All. -/
  | all
  deriving DecidableEq, Repr

namespace ExtractSelection

/-- The name of a selection. -/
def name : ExtractSelection → String
  | .include => "include"
  | .includeWithAncestors => "include-with-ancestors"
  | .exclude => "exclude"
  | .all => "all"

/-- A selection, read. -/
def decoder : Decoder ExtractSelection :=
  Decoder.oneOfNames (["include", "include-with-ancestors", "exclude", "all"].zip
    [.include, .includeWithAncestors, .exclude, .all])

end ExtractSelection

/-- The parts of each result to return. -/
structure Extract where
  /-- The paths. -/
  paths : List String
  /-- The namespaces of the prefixes in the paths. -/
  namespaces : Option StringMap := none
  /-- Which parts are returned. -/
  selected : Option ExtractSelection := none
  deriving BEq, DecidableEq

namespace Extract

/-- An extract as it is written. -/
def node (e : Extract) : Node :=
  .record (Node.member "extract-path" (Node.strings e.paths) ++
    Node.optional "namespaces" (fun m : StringMap => Node.stringMap m.entries) e.namespaces ++
    Node.optional "selected" (fun s : ExtractSelection => .string s.name) e.selected)

/-- An extract, read. -/
def decoder : Decoder Extract :=
  Fields.record (mk <$> Fields.required "extract-path" Decoder.strings <*>
    Fields.optional "namespaces" Decoder.stringMap <*>
    Fields.optional "selected" ExtractSelection.decoder)

end Extract

/-! ## Snippets -/

/-- How each result is summarised. -/
structure Snippet where
  /-- A snippeter that is built in, or a function of a library. -/
  apply : String
  /-- The namespace of the library. -/
  ns : Option String := none
  /-- The location of the library. -/
  location : Option String := none
  /-- The options, under any keys. -/
  options : ValueMap := ValueMap.empty
  deriving BEq

namespace Snippet

/-- A snippet as it is written: the options stand among its own fields. -/
def node (s : Snippet) : Node :=
  .record (Node.member "apply" (.string s.apply) ++ Node.optional "ns" .string s.ns ++
    Node.optional "at" .string s.location ++ Json.nodesOfEntries s.options.entries)

/-- The fields of a snippet beside its options. -/
def ownFields : Fields (ValueMap → Snippet) :=
  (fun apply ns location options => ⟨apply, ns, location, options⟩) <$>
    Fields.required "apply" Decoder.string <*>
    Fields.optional "ns" Decoder.string <*>
    Fields.optional "at" Decoder.string

/-- A snippet, read. -/
def decoder : Decoder Snippet := fun o d =>
  (ownFields.withOpenPart (fun entries => .ok (ValueMap.ofJsonEntries entries)) o d).map
    fun (make, options) => make options

end Snippet

end SearchRequest
