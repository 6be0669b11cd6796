import SearchRequest.Document.Instant
import SearchRequest.Document.Request

/-!
# Arguments of the building functions

Most building functions take a loose list of arguments, whose meaning depends on their kind: a
number may be a weight or a distance, a text may be a comparison, a datatype or a value.

* `Argument` — the kinds of argument.
* `Argument.ofJson` — the argument that a JSON value stands for.
* `Argument.spliceSole` — a list that is the only argument is the list of arguments itself.
* `Argument.flatten` — every list among the arguments is replaced by its items.
-/

namespace SearchRequest

/-- An argument of a building function. -/
inductive Argument where
  /-- The value `null`. -/
  | null
  /-- A text: a name, a value, or a token such as `>=`. -/
  | text (s : String)
  /-- A number. -/
  | number (n : Number)
  /-- A truth value. -/
  | bool (b : Bool)
  /-- An instant of time. -/
  | instant (t : Instant)
  /-- Several arguments. -/
  | list (items : List Argument)
  /-- Any JSON value. -/
  | json (v : Value)
  /-- A query. -/
  | query (q : Query)
  /-- The name of an index. -/
  | index (i : IndexedName)
  /-- An XML name. -/
  | qname (q : QName)
  /-- A datatype. -/
  | datatype (d : Datatype)
  /-- Documents or properties. -/
  | fragmentScope (s : FragmentScope)
  /-- A weight. -/
  | weight (n : Number)
  /-- Whether order matters. -/
  | ordered (b : Bool)
  /-- Options of a range query. -/
  | rangeOptions (options : List String)
  /-- Options of a word or value query. -/
  | termOptions (options : List String)
  /-- Options of a geospatial query. -/
  | geoOptions (options : List String)
  /-- Options of a temporal query. -/
  | temporalOptions (options : List String)
  /-- Options of a facet. -/
  | facetOptions (options : List String)
  /-- Binds a constraint to a name. -/
  | bind (name : String)
  /-- Makes a query the default of a search text. -/
  | bindDefault
  /-- Says what an empty search text matches. -/
  | bindEmpty (policy : EmptyPolicy)
  /-- A place. -/
  | latLon (p : LatLon)
  /-- A region. -/
  | region (r : Region)
  /-- The edges of a box. -/
  | bounds (b : BoxBounds)
  /-- A grid for counting places. -/
  | heatmap (h : Heatmap)
  /-- A period. -/
  | period (p : Period)
  /-- A bucket with fixed bounds. -/
  | bucket (b : Bucket)
  /-- A bucket with computed bounds. -/
  | computedBucket (b : Bucket)
  /-- A point of reference. -/
  | anchor (a : Anchor)
  /-- The functions of a library that computes a facet. -/
  | calculateFunction (f : FacetFunctions)
  /-- A facet. -/
  | facet (f : Facet)
  /-- Sorts by relevance, with a method of scoring if one is named. -/
  | score (method : Option String)
  /-- A sort key. -/
  | sort (k : SortKey)
  /-- A transform. -/
  | transform (t : Transform)
  /-- An extract. -/
  | extract (e : Extract)
  /-- A snippet. -/
  | snippet (s : Snippet)
  /-- A search text with its bindings. -/
  | searchText (t : SearchText)
  /-- The bindings of a search text. -/
  | bindings (b : ParseBindings)
  /-- An example of the documents to match. -/
  | byExample (v : Value)

namespace Argument

instance : Inhabited Argument := ⟨.null⟩

/-- The argument that a literal stands for. -/
def ofScalar : Scalar → Argument
  | .null => .null
  | .bool b => .bool b
  | .number n => .number n
  | .text s => .text s

/-- The argument that a JSON value stands for: a literal, or the value itself when it is an array
or an object. -/
def ofJson (v : Value) : Argument :=
  match Scalar.ofJson? v.tree with
  | some s => ofScalar s
  | none => .json v

/-- The argument that something optional stands for. -/
def ofOption : Option Argument → Argument
  | some a => a
  | none => .null

/-- A list that is the only argument is the list of arguments itself. -/
def spliceSole : List Argument → List Argument
  | [.list items] => items
  | args => args

/-- An argument as the items it stands for. -/
def toItems : Argument → List Argument
  | .list items => items
  | a => [a]

/-- The arguments with every list replaced by its items. -/
def flatten (args : List Argument) : List Argument := args.flatMap toItems

end Argument

end SearchRequest
