import SearchRequest.Document.Comparison
import SearchRequest.Document.Index

/-!
# Regions and geospatial indexes

* `LatLon`, `BoxBounds`, `Circle`, `Polygon`, `Region` — where something is.
* `Heatmap` — a grid for counting places.
* `GeoKind` — the six kinds of geospatial index.
* `GeoSpec` — the body of every geospatial node, with `GeoSpec.hasRegion` and `GeoSpec.setRegion`.
-/

namespace SearchRequest

/-- A place, in degrees. -/
structure LatLon where
  /-- Degrees north. -/
  latitude : Number
  /-- Degrees east. -/
  longitude : Number
  deriving BEq, DecidableEq, Repr

/-- The edges of a box. -/
structure BoxBounds where
  /-- The latitude of the southern edge. -/
  south : Number
  /-- The longitude of the western edge. -/
  west : Number
  /-- The latitude of the northern edge. -/
  north : Number
  /-- The longitude of the eastern edge. -/
  east : Number
  deriving BEq, DecidableEq, Repr

/-- A circle. -/
structure Circle where
  /-- The radius. -/
  radius : Number
  /-- The centre, in a list of its own. -/
  point : List LatLon
  deriving BEq, DecidableEq, Repr

/-- A polygon. -/
structure Polygon where
  /-- The vertices. -/
  point : List LatLon
  deriving BEq, DecidableEq, Repr

/-- A grid over a box, for counting places. -/
structure Heatmap where
  /-- How many divisions from south to north. -/
  latdivs : Number
  /-- How many divisions from west to east. -/
  londivs : Number
  /-- The southern edge. -/
  s : Number
  /-- The western edge. -/
  w : Number
  /-- The northern edge. -/
  n : Number
  /-- The eastern edge. -/
  e : Number
  deriving BEq, DecidableEq, Repr

/-- A region. -/
inductive Region where
  /-- A single place. -/
  | point (p : LatLon)
  /-- A box. -/
  | box (b : BoxBounds)
  /-- A circle. -/
  | circle (c : Circle)
  /-- A polygon. -/
  | polygon (p : Polygon)
  deriving BEq, DecidableEq, Repr

namespace LatLon

/-- A place as it is written. -/
def node (p : LatLon) : Node :=
  .record [("latitude", p.latitude.node), ("longitude", p.longitude.node)]

/-- A place, read. -/
def decoder : Decoder LatLon :=
  Fields.record (mk <$> Fields.required "latitude" Decoder.number <*>
    Fields.required "longitude" Decoder.number)

end LatLon

namespace BoxBounds

/-- A box as it is written. -/
def node (b : BoxBounds) : Node :=
  .record [("south", b.south.node), ("west", b.west.node), ("north", b.north.node),
    ("east", b.east.node)]

/-- A box, read. -/
def decoder : Decoder BoxBounds :=
  Fields.record (mk <$> Fields.required "south" Decoder.number <*>
    Fields.required "west" Decoder.number <*> Fields.required "north" Decoder.number <*>
    Fields.required "east" Decoder.number)

end BoxBounds

namespace Circle

/-- A circle as it is written. -/
def node (c : Circle) : Node :=
  .record [("radius", c.radius.node), ("point", Node.listOf LatLon.node c.point)]

/-- A circle, read. -/
def decoder : Decoder Circle :=
  Fields.record (mk <$> Fields.required "radius" Decoder.number <*>
    Fields.required "point" (Decoder.list LatLon.decoder))

end Circle

namespace Polygon

/-- A polygon as it is written. -/
def node (p : Polygon) : Node := .record [("point", Node.listOf LatLon.node p.point)]

/-- A polygon, read. -/
def decoder : Decoder Polygon :=
  Fields.record (mk <$> Fields.required "point" (Decoder.list LatLon.decoder))

end Polygon

namespace Heatmap

/-- A grid as it is written. -/
def node (h : Heatmap) : Node :=
  .record [("latdivs", h.latdivs.node), ("londivs", h.londivs.node), ("s", h.s.node),
    ("w", h.w.node), ("n", h.n.node), ("e", h.e.node)]

/-- A grid, read. -/
def decoder : Decoder Heatmap :=
  Fields.record (mk <$> Fields.required "latdivs" Decoder.number <*>
    Fields.required "londivs" Decoder.number <*> Fields.required "s" Decoder.number <*>
    Fields.required "w" Decoder.number <*> Fields.required "n" Decoder.number <*>
    Fields.required "e" Decoder.number)

end Heatmap

/-! ## Geospatial indexes -/

/-- The kinds of geospatial index. -/
inductive GeoKind where
  /-- Two attributes of an element. -/
  | attributePair
  /-- An element. -/
  | element
  /-- Two child elements. -/
  | elementPair
  /-- A JSON property. -/
  | property
  /-- Two child properties. -/
  | propertyPair
  /-- A path. -/
  | path
  deriving DecidableEq, Repr

namespace GeoKind

/-- All kinds. -/
def all : List GeoKind := [.attributePair, .element, .elementPair, .property, .propertyPair, .path]

/-- The key of a constraint or declaration on an index of the kind. -/
def key : GeoKind → String
  | .attributePair => "geo-attr-pair"
  | .element => "geo-elem"
  | .elementPair => "geo-elem-pair"
  | .property => "geo-json-property"
  | .propertyPair => "geo-json-property-pair"
  | .path => "geo-path"

/-- The key of a query on an index of the kind. -/
def queryKey (kind : GeoKind) : String := kind.key ++ "-query"

/-- The name of the combinator that builds the nodes of the kind. -/
def combinator : GeoKind → String
  | .attributePair => "geo_attribute_pair"
  | .element => "geo_element"
  | .elementPair => "geo_element_pair"
  | .property => "geo_property"
  | .propertyPair => "geo_property_pair"
  | .path => "geo_path"

end GeoKind

/-- The body of a geospatial node.  Which of the names are there depends on the kind of index. -/
structure GeoSpec where
  /-- The parent element. -/
  parent : Option QName := none
  /-- The element that holds the place. -/
  element : Option QName := none
  /-- The element or attribute that holds the latitude. -/
  lat : Option QName := none
  /-- The element or attribute that holds the longitude. -/
  lon : Option QName := none
  /-- The parent property. -/
  parentProperty : Option String := none
  /-- The property that holds the place. -/
  jsonProperty : Option String := none
  /-- The property that holds the latitude. -/
  latProperty : Option String := none
  /-- The property that holds the longitude. -/
  lonProperty : Option String := none
  /-- The path to the place. -/
  pathIndex : Option PathIndex := none
  /-- Options. -/
  geoOption : Option (List String) := none
  /-- Documents or properties. -/
  fragmentScope : Option FragmentScope := none
  /-- A grid for counting. -/
  heatmap : Option Heatmap := none
  /-- The region, if it is one or more places. -/
  point : Option (List LatLon) := none
  /-- The region, if it is a box. -/
  bounds : Option BoxBounds := none
  /-- The region, if it is a circle. -/
  circle : Option Circle := none
  /-- The region, if it is a polygon. -/
  polygon : Option Polygon := none
  deriving BEq, DecidableEq

namespace GeoSpec

/-- Whether a region is there. -/
def hasRegion (g : GeoSpec) : Bool :=
  g.point.isSome || g.bounds.isSome || g.circle.isSome || g.polygon.isSome

/-- The body with a region, in the field for regions of its shape. -/
def setRegion (g : GeoSpec) : Region → GeoSpec
  | .point p => { g with point := some [p] }
  | .box b => { g with bounds := some b }
  | .circle c => { g with circle := some c }
  | .polygon p => { g with polygon := some p }

/-- The body as it is written. -/
def node (g : GeoSpec) : Node :=
  .record (Node.optional "parent" QName.node g.parent ++
    Node.optional "element" QName.node g.element ++
    Node.optional "lat" QName.node g.lat ++
    Node.optional "lon" QName.node g.lon ++
    Node.optional "parent-property" .string g.parentProperty ++
    Node.optional "json-property" .string g.jsonProperty ++
    Node.optional "lat-property" .string g.latProperty ++
    Node.optional "lon-property" .string g.lonProperty ++
    Node.optional "path-index" PathIndex.node g.pathIndex ++
    Node.optional "geo-option" Node.strings g.geoOption ++
    Node.optional "fragment-scope" FragmentScope.node g.fragmentScope ++
    Node.optional "heatmap" Heatmap.node g.heatmap ++
    Node.optional "point" (Node.listOf LatLon.node) g.point ++
    Node.optional "box" BoxBounds.node g.bounds ++
    Node.optional "circle" Circle.node g.circle ++
    Node.optional "polygon" Polygon.node g.polygon)

/-- The body, read. -/
def decoder : Decoder GeoSpec :=
  Fields.record (mk <$> Fields.optional "parent" QName.decoder <*>
    Fields.optional "element" QName.decoder <*>
    Fields.optional "lat" QName.decoder <*>
    Fields.optional "lon" QName.decoder <*>
    Fields.optional "parent-property" Decoder.string <*>
    Fields.optional "json-property" Decoder.string <*>
    Fields.optional "lat-property" Decoder.string <*>
    Fields.optional "lon-property" Decoder.string <*>
    Fields.optional "path-index" PathIndex.decoder <*>
    Fields.optional "geo-option" Decoder.strings <*>
    Fields.optional "fragment-scope" FragmentScope.decoder <*>
    Fields.optional "heatmap" Heatmap.decoder <*>
    Fields.optional "point" (Decoder.list LatLon.decoder) <*>
    Fields.optional "box" BoxBounds.decoder <*>
    Fields.optional "circle" Circle.decoder <*>
    Fields.optional "polygon" Polygon.decoder)

end GeoSpec

end SearchRequest
