import SearchRequest.Document.Facet
import SearchRequest.Document.Options
import SearchRequest.Document.SearchText
import SearchRequest.Document.Shaping
import SearchRequest.Document.SortKey

/-!
# Search requests

* `WhereClause`, `SliceClause` — the criteria of a request, and the page of results it asks for.
* `QueryType`, `QueryFormat` — how the criteria are expressed.
* `Request` — the clauses together.
* `Request.copy` — the clauses of a request, with the type and format that its criteria have.
* `Request.ofText`, `Request.text`, `Request.json` — reading and writing the document.
-/

namespace SearchRequest

/-- Criteria as queries, a search text, or both. -/
structure StructuredWhere where
  /-- The queries, all of which must match. -/
  queries : Option (List Query) := none
  /-- The search text. -/
  searchText : Option SearchText := none
  /-- Documents or properties. -/
  fragmentScope : Option FragmentScope := none
  deriving BEq

/-- The criteria of a request. -/
inductive WhereClause where
  /-- An example of the documents to match. -/
  | byExample (example_ : Value)
  /-- Queries or a search text. -/
  | structured (clause : StructuredWhere)
  deriving BEq

/-- The page of results, and the shape of each. -/
structure SliceClause where
  /-- The first result, counted from one. -/
  pageStart : Option UInt64 := none
  /-- How many results. -/
  pageLength : Option UInt64 := none
  /-- How each result is summarised. -/
  snippet : Option Snippet := none
  /-- The parts of each result to return. -/
  extract : Option Extract := none
  /-- The transform of each result. -/
  transform : Option Transform := none
  deriving BEq

/-- How the criteria are expressed. -/
inductive QueryType where
  /-- As queries or a search text. -/
  | structured
  /-- As an example. -/
  | byExample
  deriving DecidableEq, Repr

/-- The format of the criteria. -/
inductive QueryFormat where
  /-- JSON. -/
  | json
  deriving DecidableEq, Repr

/-- A search request. -/
structure Request where
  /-- The criteria. -/
  whereClause : Option WhereClause := none
  /-- The facets to calculate. -/
  facets : Option (List Facet) := none
  /-- The keys to sort by. -/
  sortKeys : Option (List SortKey) := none
  /-- The page of results. -/
  slice : Option SliceClause := none
  /-- Options. -/
  options : Option Options := none
  /-- How the criteria are expressed. -/
  queryType : Option QueryType := none
  /-- The format of the criteria. -/
  queryFormat : Option QueryFormat := none
  deriving BEq

/-! ## Clauses -/

/-- A record with one required field. -/
def Decoder.only {α : Type} (name : String) (decoder : Decoder α) : Decoder α :=
  Fields.record (Fields.required name decoder)

namespace StructuredWhere

/-- The criteria as they are written. -/
def node (s : StructuredWhere) : Node :=
  .record (Node.optional "query"
      (fun qs => .record (Node.member "queries" (.list (Query.nodes qs)))) s.queries ++
    Node.optional "parsedQuery" SearchText.node s.searchText ++
    Node.optional "fragment-scope" FragmentScope.node s.fragmentScope)

/-- The criteria, read. -/
def decoder : Decoder StructuredWhere :=
  Fields.record (mk <$>
    Fields.optional "query" (Decoder.only "queries" (Decoder.list Query.decoder)) <*>
    Fields.optional "parsedQuery" SearchText.decoder <*>
    Fields.optional "fragment-scope" FragmentScope.decoder)

end StructuredWhere

/-- The key under which an example is written. -/
def exampleKey : String := "$query"

/-- An example as it is written. -/
def exampleNode (v : Value) : Node := .record (Node.member exampleKey v.tree.node)

/-- An example, read. -/
def exampleDecoder : Decoder Value := Decoder.only exampleKey Decoder.value

namespace WhereClause

/-- The criteria as they are written. -/
def node : WhereClause → Node
  | .byExample v => exampleNode v
  | .structured clause => clause.node

/-- The criteria, read: an example if there is one, else queries or a search text. -/
def decoder : Decoder WhereClause :=
  Decoder.firstOf [exampleDecoder.as .byExample, StructuredWhere.decoder.as .structured]

/-- How the criteria are expressed. -/
def queryType : WhereClause → QueryType
  | .byExample _ => .byExample
  | .structured _ => .structured

end WhereClause

namespace SliceClause

/-- A page as it is written. -/
def node (s : SliceClause) : Node :=
  .record (
    Node.optional "page-start" (fun n => .number (Number.ofUInt64 n)) s.pageStart ++
    Node.optional "page-length" (fun n => .number (Number.ofUInt64 n)) s.pageLength ++
    Node.optional "transform-results" Snippet.node s.snippet ++
    Node.optional "extract-document-data" Extract.node s.extract ++
    Node.optional "document-transform" Transform.node s.transform)

/-- A page, read. -/
def decoder : Decoder SliceClause :=
  Fields.record (mk <$> Fields.optional "page-start" Decoder.uint64 <*>
    Fields.optional "page-length" Decoder.uint64 <*>
    Fields.optional "transform-results" Snippet.decoder <*>
    Fields.optional "extract-document-data" Extract.decoder <*>
    Fields.optional "document-transform" Transform.decoder)

end SliceClause

namespace QueryType

/-- The name of a type. -/
def name : QueryType → String
  | .structured => "structured"
  | .byExample => "qbe"

/-- A type, read. -/
def decoder : Decoder QueryType :=
  Decoder.oneOfNames [("structured", .structured), ("qbe", .byExample)]

end QueryType

namespace QueryFormat

/-- The name of a format. -/
def name : QueryFormat → String
  | .json => "json"

/-- A format, read. -/
def decoder : Decoder QueryFormat := Decoder.oneOfNames [("json", .json)]

end QueryFormat

/-! ## Requests -/

namespace Request

/-- The request without clauses. -/
def empty : Request := {}

/-- A request as it is written. -/
def node (r : Request) : Node :=
  .record (Node.optional "whereClause" WhereClause.node r.whereClause ++
    Node.optional "calculateClause"
      (fun fs => .record (Node.member "constraint" (Node.listOf Facet.node fs))) r.facets ++
    Node.optional "orderByClause"
      (fun ks => .record (Node.member "sort-order" (Node.listOf SortKey.node ks))) r.sortKeys ++
    Node.optional "sliceClause" SliceClause.node r.slice ++
    Node.optional "withOptionsClause" Options.node r.options ++
    Node.optional "queryType" (fun t : QueryType => .string t.name) r.queryType ++
    Node.optional "queryFormat" (fun f : QueryFormat => .string f.name) r.queryFormat)

/-- A request, read as it is stated. -/
def decoder : Decoder Request :=
  Fields.record (mk <$> Fields.optional "whereClause" WhereClause.decoder <*>
    Fields.optional "calculateClause"
      (Decoder.only "constraint" (Decoder.list Facet.decoder)) <*>
    Fields.optional "orderByClause"
      (Decoder.only "sort-order" (Decoder.list SortKey.decoder)) <*>
    Fields.optional "sliceClause" SliceClause.decoder <*>
    Fields.optional "withOptionsClause" Options.decoder <*>
    Fields.optional "queryType" QueryType.decoder <*>
    Fields.optional "queryFormat" QueryFormat.decoder)

/-- A request with the type and the format that its criteria have. -/
def copy (r : Request) : Request :=
  { r with
    queryType := r.whereClause.map WhereClause.queryType
    queryFormat := r.whereClause.map fun _ => .json }

/-- The request that a text holds, with the type and the format that its criteria have. -/
def ofText (ρ : FloatReader) (text : String) : Except ReadError Request :=
  (decoder.readText ρ text).map copy

/-- The document of a request. -/
def json (r : Request) : Json := r.node.toJson

/-- The document of a request as a text. -/
def text (r : Request) : String := r.json.compact

end Request

end SearchRequest
