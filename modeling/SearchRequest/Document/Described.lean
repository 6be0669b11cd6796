import SearchRequest.Document.Instant
import SearchRequest.Document.Request

/-!
# Documents described for error messages

* `X.described` for each kind `X` of value — the value as an error message shows it.
-/

namespace SearchRequest

open Described (option listOf texts)

/-! ## Literals and names -/

/-- A number with its kind. -/
def Number.described : Number → Described
  | .signed n => .tuple "I64" [.word (String.ofList (Decimal.integer n.toInt))]
  | .unsigned n => .tuple "U64" [.word (String.ofList (Decimal.digits n.toNat))]
  | .float x => .tuple "F64" [.word (String.ofList (Layout.inspected.text x))]

/-- A literal. -/
def Scalar.described : Scalar → Described
  | .null => .word "Null"
  | .bool b => .tuple "Bool" [Described.bool b]
  | .number n => .tuple "Number" [n.described]
  | .text s => .tuple "Text" [.quoted s]

/-- An XML name. -/
def QName.described (q : QName) : Described :=
  .record "QName" [("ns", option .quoted q.ns), ("name", .quoted q.name)]

/-- A map from strings to strings. -/
def StringMap.described (m : StringMap) : Described :=
  .map (m.entries.map fun (k, v) => (k, .quoted v))

/-- A path. -/
def PathIndex.described (p : PathIndex) : Described :=
  .record "PathIndex" [("text", .quoted p.path), ("namespaces", p.namespaces.described)]

/-- The name of an index. -/
def IndexedName.described : IndexedName → Described
  | .jsonProperty name => .tuple "JsonProperty" [.quoted name]
  | .element name attr =>
    .record "Element" [("element", name.described), ("attribute", option QName.described attr)]
  | .field name => .tuple "Field" [.quoted name]
  | .path p => .tuple "PathIndex" [p.described]

/-- The fields of the name of an index. -/
def IndexFields.described (f : IndexFields) : Described :=
  .record "IndexFields" [("json_property", option .quoted f.jsonProperty),
    ("element", option QName.described f.element),
    ("attribute", option QName.described f.attributeName),
    ("field", option .quoted f.field),
    ("path_index", option PathIndex.described f.pathIndex)]

/-- The reference to a library function. -/
def LibraryFunction.described (f : LibraryFunction) : Described :=
  .record "ModuleRef" [("apply", .quoted f.apply), ("ns", .quoted f.ns),
    ("at", .quoted f.location)]

/-- A datatype. -/
def Datatype.described (d : Datatype) : Described :=
  .record "Datatype" [("datatype", .quoted d.name), ("collation", option .quoted d.collation)]

/-- Documents or properties. -/
def FragmentScope.described : FragmentScope → Described
  | .documents => .word "Documents"
  | .properties => .word "Properties"

/-- A comparison. -/
def RangeOperator.described : RangeOperator → Described
  | .lt => .word "Lt"
  | .le => .word "Le"
  | .gt => .word "Gt"
  | .ge => .word "Ge"
  | .eq => .word "Eq"
  | .ne => .word "Ne"

/-! ## Regions -/

/-- A place. -/
def LatLon.described (p : LatLon) : Described :=
  .record "LatLon" [("latitude", p.latitude.described), ("longitude", p.longitude.described)]

/-- The edges of a box. -/
def BoxBounds.described (b : BoxBounds) : Described :=
  .record "BoxBounds" [("south", b.south.described), ("west", b.west.described),
    ("north", b.north.described), ("east", b.east.described)]

/-- A circle. -/
def Circle.described (c : Circle) : Described :=
  .record "Circle" [("radius", c.radius.described), ("point", listOf LatLon.described c.point)]

/-- A polygon. -/
def Polygon.described (p : Polygon) : Described :=
  .record "Polygon" [("point", listOf LatLon.described p.point)]

/-- A grid. -/
def Heatmap.described (h : Heatmap) : Described :=
  .record "Heatmap" [("latdivs", h.latdivs.described), ("londivs", h.londivs.described),
    ("s", h.s.described), ("w", h.w.described), ("n", h.n.described), ("e", h.e.described)]

/-- A region. -/
def Region.described : Region → Described
  | .point p => .tuple "Point" [p.described]
  | .box b => .tuple "Box" [b.described]
  | .circle c => .tuple "Circle" [c.described]
  | .polygon p => .tuple "Polygon" [p.described]

/-- The body of a geospatial node. -/
def GeoSpec.described (g : GeoSpec) : Described :=
  .record "GeoSpec" [("parent", option QName.described g.parent),
    ("element", option QName.described g.element),
    ("lat", option QName.described g.lat),
    ("lon", option QName.described g.lon),
    ("parent_property", option .quoted g.parentProperty),
    ("json_property", option .quoted g.jsonProperty),
    ("lat_property", option .quoted g.latProperty),
    ("lon_property", option .quoted g.lonProperty),
    ("path_index", option PathIndex.described g.pathIndex),
    ("geo_option", option texts g.geoOption),
    ("fragment_scope", option FragmentScope.described g.fragmentScope),
    ("heatmap", option Heatmap.described g.heatmap),
    ("point", option (listOf LatLon.described) g.point),
    ("bounds", option BoxBounds.described g.bounds),
    ("circle", option Circle.described g.circle),
    ("polygon", option Polygon.described g.polygon)]

/-- The name of a kind of geospatial index. -/
def GeoKind.label : GeoKind → String
  | .attributePair => "GeoAttrPair"
  | .element => "GeoElem"
  | .elementPair => "GeoElemPair"
  | .property => "GeoJsonProperty"
  | .propertyPair => "GeoJsonPropertyPair"
  | .path => "GeoPath"

/-! ## Queries -/

/-- The name of a kind of text node. -/
def TextKind.label : TextKind → String
  | .word => "Word"
  | .value => "Value"

/-- The body of a word or value node. -/
def TextSpec.described (t : TextSpec) : Described :=
  .record "TextSpec" [("index", t.index.described),
    ("fragment_scope", option FragmentScope.described t.fragmentScope),
    ("term_option", option texts t.termOption),
    ("weight", option Number.described t.weight),
    ("text", option (listOf Scalar.described) t.text)]

/-- The body of a range node. -/
def RangeSpec.described (r : RangeSpec) : Described :=
  .record "RangeSpec" [("index", r.index.described),
    ("datatype", option .quoted r.datatype),
    ("collation", option .quoted r.collation),
    ("fragment_scope", option FragmentScope.described r.fragmentScope),
    ("range_option", option texts r.rangeOption),
    ("value", option (listOf Scalar.described) r.value),
    ("range_operator", option RangeOperator.described r.operator)]

/-- A container without a query. -/
def ContainerSpec.described (c : ContainerSpec) : Described :=
  .record "ContainerSpec" [("index", c.index.described),
    ("fragment_scope", option FragmentScope.described c.fragmentScope)]

/-- The body of a query as of a time. -/
def LsqtSpec.described (l : LsqtSpec) : Described :=
  .record "LsqtQuery" [("temporal_collection", .quoted l.temporalCollection),
    ("weight", option Number.described l.weight),
    ("timestamp", option .quoted l.timestamp),
    ("temporal_option", option texts l.temporalOption)]

/-- A period. -/
def Period.described (p : Period) : Described :=
  .record "Period" [("period_start", .quoted p.start), ("period_end", option .quoted p.finish)]

/-- The body of a comparison of two axes. -/
def AxisComparison.described (a : AxisComparison) : Described :=
  .record "PeriodCompareQuery" [("axis1", .quoted a.axis1),
    ("temporal_operator", .quoted a.operator), ("axis2", .quoted a.axis2),
    ("temporal_option", option texts a.temporalOption)]

/-- The body of a comparison of axes with periods. -/
def PeriodComparison.described (p : PeriodComparison) : Described :=
  .record "PeriodRangeQuery" [("axis", texts p.axis),
    ("temporal_operator", .quoted p.operator), ("period", listOf Period.described p.period),
    ("temporal_option", option texts p.temporalOption)]

/-- The body of a custom constraint. -/
def CustomConstraint.described (c : CustomConstraint) : Described :=
  .record "CustomConstraint" [("parse", c.parse.described), ("facet", Described.bool c.facet),
    ("term_option", option texts c.termOption)]

/-- What a constraint constrains. -/
def ConstraintSpec.described : ConstraintSpec → Described
  | .range spec => .tuple "Range" [spec.described]
  | .text kind spec => .tuple kind.label [spec.described]
  | .collection start =>
    .tuple "Collection" [.record "CollectionConstraint" [("prefix", option .quoted start)]]
  | .container spec => .tuple "Container" [spec.described]
  | .geo kind spec => .tuple kind.label [spec.described]
  | .custom spec => .tuple "Custom" [spec.described]

/-- A constraint. -/
def Constraint.described (c : Constraint) : Described :=
  .record "Constraint" [("name", .quoted c.name), ("spec", c.spec.described)]

/-- What terms without a constraint mean. -/
def DefaultSpec.described : DefaultSpec → Described
  | .range spec => .tuple "Range" [spec.described]
  | .text kind spec => .tuple kind.label [spec.described]

/-- The declaration of an index. -/
def IndexDeclaration.described : IndexDeclaration → Described
  | .collection => .tuple "Collection" [.word "()"]
  | .geo kind spec => .tuple kind.label [spec.described]

/-- A list of document addresses, as the body of a node. -/
def describedUris (uris : List String) : Described := .record "UriList" [("uri", texts uris)]

mutual
/-- A query. -/
def Query.described : Query → Described
  | .criteria c => .tuple "Structured" [Criteria.described c]
  | .constraint c => .tuple "Constraint" [c.described]
  | .default spec =>
    .tuple "Default" [.record "DefaultBinding" [("default", spec.described)]]
  | .index declaration => .tuple "Index" [declaration.described]
termination_by structural q => q
/-- Criteria. -/
def Criteria.described : Criteria → Described
  | .and queries ordered =>
    .tuple "And" [.record "AndQuery" [("queries", .list (Query.describedAll queries)),
      ("ordered", option Described.bool ordered)]]
  | .or queries =>
    .tuple "Or" [.record "OrQuery" [("queries", .list (Query.describedAll queries))]]
  | .not query => .tuple "Not" [Query.described query]
  | .andNot positive negative =>
    .tuple "AndNot" [.record "AndNotQuery" [("positive_query", Query.described positive),
      ("negative_query", Query.described negative)]]
  | .notIn positive negative =>
    .tuple "NotIn" [.record "AndNotQuery" [("positive_query", Query.described positive),
      ("negative_query", Query.described negative)]]
  | .boost matching boosting =>
    .tuple "Boost" [.record "BoostQuery" [("matching_query", Query.described matching),
      ("boosting_query", Query.described boosting)]]
  | .near queries ordered weight distance =>
    .tuple "Near" [.record "NearQuery" [("queries", .list (Query.describedAll queries)),
      ("ordered", option Described.bool ordered), ("weight", option Number.described weight),
      ("distance", option Number.described distance)]]
  | .term text weight =>
    .tuple "Term" [.record "TermQuery" [("text", listOf Scalar.described text),
      ("weight", option Number.described weight)]]
  | .text kind spec => .tuple kind.label [spec.described]
  | .range spec => .tuple "Range" [spec.described]
  | .collection uris => .tuple "Collection" [describedUris uris]
  | .directory uris infinite =>
    .tuple "Directory" [.record "DirectoryQuery" [("uri", texts uris),
      ("infinite", option Described.bool infinite)]]
  | .document uris => .tuple "Document" [describedUris uris]
  | .documentFragment query => .tuple "DocumentFragment" [Query.described query]
  | .properties query => .tuple "Properties" [Query.described query]
  | .locksFragment query => .tuple "LocksFragment" [Query.described query]
  | .container spec inner =>
    .tuple "Container" [.record "ContainerQuery" [("index", spec.index.described),
      ("fragment_scope", option FragmentScope.described spec.fragmentScope),
      ("query", Criteria.described inner)]]
  | .geo kind spec => .tuple kind.label [spec.described]
  | .lsqt spec => .tuple "Lsqt" [spec.described]
  | .axisComparison spec => .tuple "PeriodCompare" [spec.described]
  | .periodComparison spec => .tuple "PeriodRange" [spec.described]
termination_by structural c => c
/-- Queries. -/
def Query.describedAll : List Query → List Described
  | [] => []
  | q :: rest => Query.described q :: Query.describedAll rest
termination_by structural qs => qs
end

/-! ## Facets -/

/-- A bucket. -/
def Bucket.described (b : Bucket) : Described :=
  .record "Bucket" [("name", .quoted b.name), ("label", .quoted b.label),
    ("anchor", option .quoted b.anchor), ("ge", option Scalar.described b.ge),
    ("ge_anchor", option .quoted b.geAnchor), ("lt", option Scalar.described b.lt),
    ("lt_anchor", option .quoted b.ltAnchor)]

/-- A point of reference. -/
def Anchor.described (a : Anchor) : Described :=
  .record "Anchor" [("anchor", .quoted a.anchor), ("value", listOf Scalar.described a.value)]

/-- The functions of a library that computes a facet, as fields. -/
def FacetFunctions.describedFields (f : FacetFunctions) : List (String × Described) :=
  [("start_facet", f.start.described), ("finish_facet", f.finish.described)]

/-- The functions of a library that computes a facet. -/
def FacetFunctions.described (f : FacetFunctions) : Described :=
  .record "CustomFacetFunctions" f.describedFields

/-- What a facet counts. -/
def FacetKind.described : FacetKind → Described
  | .collection facet options =>
    .tuple "Collection" [.record "CollectionFacet" [("facet", Described.bool facet),
      ("facet_option", option texts options)]]
  | .custom facet functions options =>
    .tuple "Custom" [.record "CustomFacet" (("facet", Described.bool facet) ::
      functions.describedFields ++ [("facet_option", option texts options)])]
  | .range facet =>
    .tuple "Range" [.record "RangeFacet" [("facet", Described.bool facet.facet),
      ("datatype", option .quoted facet.datatype),
      ("collation", option .quoted facet.collation),
      ("index", facet.index.described),
      ("bucket", option (listOf Bucket.described) facet.bucket),
      ("computed_bucket", option (listOf Bucket.described) facet.computedBucket),
      ("facet_option", option texts facet.facetOption)]]

/-- A facet. -/
def Facet.described (f : Facet) : Described :=
  .record "Facet" [("name", .quoted f.name), ("kind", f.kind.described)]

/-! ## Sort keys, result shapes and search texts -/

/-- A direction. -/
def Direction.described : Direction → Described
  | .ascending => .word "Ascending"
  | .descending => .word "Descending"

/-- A sort key. -/
def SortKey.described (k : SortKey) : Described :=
  .record "SortSpec" [("index", k.index.described),
    ("score", option (option .quoted) k.score),
    ("direction", option Direction.described k.direction),
    ("datatype", option .quoted k.datatype),
    ("collation", option .quoted k.collation)]

/-- The entries of a JSON object. -/
def ValueMap.described (m : ValueMap) : Described := .map (Json.describedEntries m.entries)

/-- A transform. -/
def Transform.described (t : Transform) : Described :=
  .record "Transform" [("name", .quoted t.name),
    ("params", option ValueMap.described t.params)]

/-- Which parts of a result are returned. -/
def ExtractSelection.described : ExtractSelection → Described
  | .include => .word "Include"
  | .includeWithAncestors => .word "IncludeWithAncestors"
  | .exclude => .word "Exclude"
  | .all => .word "All"

/-- An extract. -/
def Extract.described (e : Extract) : Described :=
  .record "Extract" [("extract_path", texts e.paths),
    ("namespaces", option StringMap.described e.namespaces),
    ("selected", option ExtractSelection.described e.selected)]

/-- A snippet. -/
def Snippet.described (s : Snippet) : Described :=
  .record "Snippet" [("apply", .quoted s.apply), ("ns", option .quoted s.ns),
    ("at", option .quoted s.location), ("options", s.options.described)]

/-- What an empty search text matches. -/
def EmptyPolicy.described : EmptyPolicy → Described
  | .allResults => .word "AllResults"
  | .noResults => .word "NoResults"

/-- Term bindings. -/
def TermBinding.described (t : TermBinding) : Described :=
  .record "TermBinding" [("default", option DefaultSpec.described t.default),
    ("empty", option (fun p : EmptyPolicy => .record "EmptyBinding" [("apply", p.described)])
      t.empty)]

/-- Bindings as fields. -/
def ParseBindings.describedFields (constraint : Option (List Constraint))
    (term : Option TermBinding) : List (String × Described) :=
  [("constraint", option (listOf Constraint.described) constraint),
    ("term", option TermBinding.described term)]

/-- The bindings of a search text. -/
def ParseBindings.described (b : ParseBindings) : Described :=
  .record "ParseBindings" (describedFields b.constraint b.term)

/-- A search text. -/
def SearchText.described (t : SearchText) : Described :=
  .record "ParsedQuery"
    (("qtext", .quoted t.text) :: ParseBindings.describedFields t.constraint t.term)

end SearchRequest
