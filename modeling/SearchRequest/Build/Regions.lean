import SearchRequest.Build.Error

/-!
# Regions

* `Argument.asPlace` — a place in any of its spellings.
* `Build.point`, `Build.box`, `Build.circle`, `Build.polygon` — regions.
* `Build.heatmap` — a grid over a box.
-/

namespace SearchRequest

/-- An argument that must be a place: a place, the region of one, or a list of its two numbers. -/
def Argument.asPlace (combinator : String) : Argument → Build LatLon
  | .latLon p => .ok p
  | .region (.point p) => .ok p
  | .list [latitude, longitude] => do
    let latitude ← latitude.asNumber combinator
    let longitude ← longitude.asNumber combinator
    .ok ⟨latitude, longitude⟩
  | a => refuse combinator a

/-- The box that an argument stands for, if it is one. -/
def Argument.bounds? : Argument → Option BoxBounds
  | .bounds b => some b
  | .region (.box b) => some b
  | _ => none

namespace Build

/-- The region of a single place, given in any spelling or as two numbers. -/
def point (args : List Argument) : Build Region :=
  match Argument.spliceSole args with
  | [a] => do
    let p ← a.asPlace "point"
    .ok (.point p)
  | [latitude, longitude] => do
    let p ← (Argument.list [latitude, longitude]).asPlace "point"
    .ok (.point p)
  | args =>
    .error (.arity "point" ("takes a coordinate or latitude and longitude, got " ++
      String.ofList (Decimal.digits args.length) ++ " arguments"))

/-- A box, given as its bounds or as its southern, western, northern and eastern edges. -/
def box (args : List Argument) : Build Region :=
  match Argument.spliceSole args with
  | [a] =>
    match a.bounds? with
    | some b => .ok (.box b)
    | none => Argument.refuse "box" a
  | [south, west, north, east] => do
    let south ← south.asNumber "box"
    let west ← west.asNumber "box"
    let north ← north.asNumber "box"
    let east ← east.asNumber "box"
    .ok (.box ⟨south, west, north, east⟩)
  | args =>
    .error (.arity "box" ("takes bounds or four edges, got " ++
      String.ofList (Decimal.digits args.length) ++ " arguments"))

/-- The centre of a circle, given in any spelling or as two numbers, and nothing after it. -/
def centre : List Argument → Build LatLon
  | [] => .error (.arity "circle" "missing center")
  | [a] => a.asPlace "circle"
  | [.number latitude, .number longitude] => .ok ⟨latitude, longitude⟩
  | .number _ :: .number _ :: extra :: _ => Argument.refuse "circle" extra
  | _ :: extra :: _ => Argument.refuse "circle" extra

/-- A circle: the radius, then the centre. -/
def circle (args : List Argument) : Build Region :=
  match Argument.spliceSole args with
  | [] => .error (.arity "circle" "missing radius")
  | radius :: rest => do
    let radius ← radius.asNumber "circle"
    let p ← centre rest
    .ok (.circle ⟨radius, [p]⟩)

/-- A polygon, given by its vertices. -/
def polygon (args : List Argument) : Build Region := do
  let vertices ← (Argument.spliceSole args).mapM (Argument.asPlace "polygon")
  if vertices.isEmpty then .error (.arity "polygon" "missing vertices")
  else .ok (.polygon ⟨vertices⟩)

/-- A grid over a box. -/
def grid (b : BoxBounds) (latdivs londivs : Argument) : Build Heatmap := do
  let latdivs ← latdivs.asNumber "heatmap"
  let londivs ← londivs.asNumber "heatmap"
  .ok ⟨latdivs, londivs, b.south, b.west, b.north, b.east⟩

/-- A grid for counting places: a box before or after the two counts of divisions, or six numbers,
the counts of divisions before the edges. -/
def heatmap (args : List Argument) : Build Heatmap :=
  match Argument.spliceSole args with
  | [first, second, third] =>
    match first.bounds?, third.bounds? with
    | some b, _ => grid b second third
    | none, some b => grid b first second
    | none, none => .error (.arity "heatmap" "no region for heatmap")
  | [latdivs, londivs, south, west, north, east] => do
    let latdivs ← latdivs.asNumber "heatmap"
    let londivs ← londivs.asNumber "heatmap"
    let south ← south.asNumber "heatmap"
    let west ← west.asNumber "heatmap"
    let north ← north.asNumber "heatmap"
    let east ← east.asNumber "heatmap"
    .ok ⟨latdivs, londivs, south, west, north, east⟩
  | args =>
    .error (.arity "heatmap" ("takes 3 or 6 arguments, got " ++
      String.ofList (Decimal.digits args.length)))

end Build

end SearchRequest
