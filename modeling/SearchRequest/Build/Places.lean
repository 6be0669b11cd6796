import SearchRequest.Build.Names
import SearchRequest.Build.Regions

/-!
# Queries on geospatial indexes

Each function takes the names of the index first.  Then come, in any order, options, a scope and a
grid, and either a region or a binding; with neither the result declares the index.

* `Build.geoAttributePair`, `Build.geoElement`, `Build.geoElementPair`, `Build.geoProperty`,
  `Build.geoPropertyPair`, `Build.geoPath` — one function for each kind of index.
-/

namespace SearchRequest.Build

/-! ## What follows the names -/

/-- What the arguments after the names add up to. -/
structure GeoParts where
  /-- The body of the node. -/
  spec : GeoSpec
  /-- The name. -/
  name : Option String := none

namespace GeoParts

/-- The parts with another argument, each kind of which counts the first time it comes; a place in
any spelling is a region. -/
def add (combinator : String) (p : GeoParts) : Argument → Build GeoParts
  | .geoOptions os =>
      if p.spec.geoOption.isNone then .ok { p with spec := { p.spec with geoOption := some os } }
      else Argument.refuse combinator (.geoOptions os)
  | .fragmentScope s =>
      if p.spec.fragmentScope.isNone then
        .ok { p with spec := { p.spec with fragmentScope := some s } }
      else Argument.refuse combinator (.fragmentScope s)
  | .heatmap h =>
      if p.spec.heatmap.isNone then .ok { p with spec := { p.spec with heatmap := some h } }
      else Argument.refuse combinator (.heatmap h)
  | .bind n => if p.name.isNone then .ok { p with name := some n }
      else Argument.refuse combinator (.bind n)
  | .region r => if p.spec.hasRegion then Argument.refuse combinator (.region r)
      else .ok { p with spec := p.spec.setRegion r }
  | .latLon l => if p.spec.hasRegion then Argument.refuse combinator (.latLon l)
      else .ok { p with spec := p.spec.setRegion (.point l) }
  | .list items => if p.spec.hasRegion then Argument.refuse combinator (.list items)
      else do
        let l ← (Argument.list items).asPlace combinator
        .ok { p with spec := p.spec.setRegion (.point l) }
  | a => Argument.refuse combinator a

/-- What the parts make: criteria with a region, a constraint with a name, and a declaration with
neither. -/
def finish (kind : GeoKind) (p : GeoParts) : Build Query :=
  match p.name, p.spec.hasRegion with
  | some _, true => .error (.conflictingBinding kind.combinator)
  | some name, false => .ok (.constraint ⟨name, .geo kind p.spec⟩)
  | none, true => .ok (.criteria (.geo kind p.spec))
  | none, false => .ok (.index (.geo kind p.spec))

end GeoParts

/-- The node of a kind, from the names of the index and the arguments after them. -/
def geo (kind : GeoKind) (names : GeoSpec) (rest : List Argument) : Build Query := do
  let p ← rest.foldlM (GeoParts.add kind.combinator) { spec := names }
  p.finish kind

/-! ## Names -/

/-- The body with a name in one of three places: parent, latitude, longitude. -/
def setPairName (spec : GeoSpec) (place : Nat) (name : QName) : GeoSpec :=
  match place with
  | 0 => { spec with parent := some name }
  | 1 => { spec with lat := some name }
  | _ => { spec with lon := some name }

/-- The names of a pair of attributes, from the place that is to be filled next on, and the
arguments after them.  An attribute of an element fills the place of the parent too while that is
empty; a plain element fills it, and counts for its place, without filling another. -/
def attributePairNames : Nat → GeoSpec → List Argument → Build (GeoSpec × List Argument)
  | place, spec, [] =>
    if 3 ≤ place then .ok (spec, [])
    else .error (.arity GeoKind.attributePair.combinator "missing attribute")
  | place, spec, a :: rest =>
    if 3 ≤ place then .ok (spec, a :: rest)
    else
      match a with
      | .index (.element name attr) =>
        let spec := if place = 0 || spec.parent.isNone then { spec with parent := some name }
          else spec
        match attr with
        | some attr =>
          let place := if place = 0 then 1 else place
          attributePairNames (place + 1) (setPairName spec place attr) rest
        | none => attributePairNames (place + 1) spec rest
      | a => do
        let name ← a.asQName GeoKind.attributePair.combinator
        attributePairNames (place + 1) (setPairName spec place name) rest

/-- An argument that must name an element. -/
def asElement (combinator : String) : Argument → Build QName
  | .index (.element name _) => .ok name
  | a => a.asQName combinator

/-- Whether an argument names an element where a list would be a place. -/
def isElement : Argument → Bool
  | .text _ => true
  | .qname _ => true
  | .index (.element _ _) => true
  | _ => false

/-- An argument that must name a property. -/
def asProperty (combinator : String) : Argument → Build String
  | .index (.jsonProperty name) => .ok name
  | a => a.asText combinator

/-- Whether an argument names a property. -/
def isProperty : Argument → Bool
  | .text _ => true
  | .index (.jsonProperty _) => true
  | _ => false

/-- The one or two arguments with a property at the start, and those after them. -/
def leadingTwo (isName : Argument → Bool) : List Argument → List Argument × List Argument
  | first :: second :: rest =>
    if isName first then
      if isName second then ([first, second], rest) else ([first], second :: rest)
    else ([], first :: second :: rest)
  | [first] => if isName first then ([first], []) else ([], [first])
  | [] => ([], [])

/-- The namespaces of a path that a JSON object binds. -/
def namespacesOf (combinator : String) (m : ValueMap) : Build StringMap := do
  let entries ← m.toList.mapM fun (key, v) =>
    match v.tree.string? with
    | some uri => .ok (key, uri)
    | none => .error (.unrecognized combinator (.value v))
  .ok (StringMap.ofList entries)

/-- A path from a list of its text and, perhaps, its namespaces. -/
def pathOfParts (combinator : String) : List Argument → Build PathIndex
  | [] => .error (.arity combinator "missing path")
  | [text] => do
    let text ← text.asText combinator
    .ok ⟨text, StringMap.empty⟩
  | text :: namespaces :: _ => do
    let text ← text.asText combinator
    match namespaces with
    | .json v =>
      match v.object? with
      | some m => do
        let namespaces ← namespacesOf combinator m
        .ok ⟨text, namespaces⟩
      | none => Argument.refuse combinator (.json v)
    | a => Argument.refuse combinator a

/-! ## The six functions -/

/-- A pair of attributes: the names of the parent element, of the latitude and of the
longitude. -/
def geoAttributePair (args : List Argument) : Build Query := do
  let args := Argument.spliceSole args
  if args.length < 3 then
    .error (.arity GeoKind.attributePair.combinator
      "need at least 3 parameters for a geospatial attribute pair query")
  else do
    let (names, rest) ← attributePairNames 0 {} args
    geo .attributePair names rest

/-- An element, with or without its parent before it. -/
def geoElement (args : List Argument) : Build Query :=
  let combinator := GeoKind.element.combinator
  match leadingTwo isElement (Argument.spliceSole args) with
  | ([parent, element], rest) => do
    let parent ← asElement combinator parent
    let element ← asElement combinator element
    geo .element { parent := some parent, element := some element } rest
  | ([element], rest) => do
    let element ← asElement combinator element
    geo .element { element := some element } rest
  | _ => .error (.arity combinator "missing element")

/-- A pair of child elements: the names of the parent, of the latitude and of the longitude. -/
def geoElementPair (args : List Argument) : Build Query :=
  let combinator := GeoKind.elementPair.combinator
  match Argument.spliceSole args with
  | parent :: lat :: lon :: rest => do
    let parent ← asElement combinator parent
    let lat ← asElement combinator lat
    let lon ← asElement combinator lon
    geo .elementPair { parent := some parent, lat := some lat, lon := some lon } rest
  | _ => .error (.arity combinator
      "need at least 3 parameters for a geospatial element pair query")

/-- A property, with or without its parent before it. -/
def geoProperty (args : List Argument) : Build Query :=
  let combinator := GeoKind.property.combinator
  match leadingTwo isProperty (Argument.spliceSole args) with
  | ([parent, property], rest) => do
    let parent ← asProperty combinator parent
    let property ← asProperty combinator property
    geo .property { parentProperty := some parent, jsonProperty := some property } rest
  | ([property], rest) => do
    let property ← asProperty combinator property
    geo .property { jsonProperty := some property } rest
  | _ => .error (.arity combinator "missing property")

/-- A pair of child properties: the names of the parent, of the latitude and of the longitude. -/
def geoPropertyPair (args : List Argument) : Build Query :=
  let combinator := GeoKind.propertyPair.combinator
  match Argument.spliceSole args with
  | parent :: lat :: lon :: rest => do
    let parent ← asProperty combinator parent
    let lat ← asProperty combinator lat
    let lon ← asProperty combinator lon
    geo .propertyPair
      { parentProperty := some parent, latProperty := some lat, lonProperty := some lon } rest
  | _ => .error (.arity combinator
      "need at least 3 parameters for a geospatial property pair query")

/-- A path, as a name, as a text, or as a list of its text and its namespaces. -/
def geoPath (args : List Argument) : Build Query :=
  let combinator := GeoKind.path.combinator
  match Argument.spliceSole args with
  | [] => .error (.arity combinator "missing path")
  | first :: rest => do
    let path ← match first with
      | .index (.path path) => .ok path
      | .text text => .ok ⟨text, StringMap.empty⟩
      | .list parts => pathOfParts combinator parts
      | a => Argument.refuse combinator a
    geo .path { pathIndex := some path } rest

end SearchRequest.Build
