import SearchRequest.Proofs.Build.Scans

/-!
# The scans of the geospatial functions

* `GeoSpec.Bare`, `GeoSpec.withRegion` — a body that only names an index, and a body with a region.
* `Build.geoScan` — the scan of what follows the names, with its law.
* `Build.geoOf`, `Build.geoSplit`, `Build.geoNames` — the function of each kind, which of its
  arguments name the index, and what they name.
* `Build.geoOf_eq` — such a function reads the names, and then scans the other arguments.
-/

namespace SearchRequest

/-! ## Regions of bodies -/

namespace GeoSpec

/-- A body that says nothing but the names of the index. -/
structure Bare (g : GeoSpec) : Prop where
  /-- There are no options. -/
  geoOption : g.geoOption = none
  /-- Documents and properties both count. -/
  fragmentScope : g.fragmentScope = none
  /-- There is no grid. -/
  heatmap : g.heatmap = none
  /-- There are no places. -/
  point : g.point = none
  /-- There is no box. -/
  bounds : g.bounds = none
  /-- There is no circle. -/
  circle : g.circle = none
  /-- There is no polygon. -/
  polygon : g.polygon = none

theorem bare_of_names (parent element lat lon : Option QName)
    (parentProperty jsonProperty latProperty lonProperty : Option String)
    (pathIndex : Option PathIndex) :
    Bare { parent, element, lat, lon, parentProperty, jsonProperty, latProperty, lonProperty,
           pathIndex } :=
  ⟨rfl, rfl, rfl, rfl, rfl, rfl, rfl⟩

/-- The body with a region, if there is one. -/
def withRegion (g : GeoSpec) : Option Region → GeoSpec
  | some r => g.setRegion r
  | none => g

theorem hasRegion_setRegion (g : GeoSpec) (r : Region) : (g.setRegion r).hasRegion = true := by
  cases r <;> simp [setRegion, hasRegion]

end GeoSpec

namespace Build

open Argument

/-! ## What follows the names -/

/-- The scan of the arguments after the names of a geospatial index. -/
def geoScan (kind : GeoKind) (names : GeoSpec) : Scan GeoParts where
  combinator := kind.combinator
  start := { spec := names }
  add := GeoParts.add kind.combinator
  slot
    | .geoOptions _ => some .options
    | .fragmentScope _ => some .scope
    | .heatmap _ => some .heatmap
    | .bind _ => some .name
    | a => if a.region?.isSome then some .region else none
  read f :=
    { spec := { names.withRegion ((f .region).findSome? region?) with
        geoOption := (f .options).findSome? options?
        fragmentScope := (f .scope).findSome? scope?
        heatmap := (f .heatmap).findSome? heatmap? }
      name := (f .name).findSome? boundName? }

/-- A place in any spelling is a region while there is none. -/
theorem GeoParts.add_of_region (combinator : String) (p : GeoParts) {a : Argument} {r : Region}
    (h : a.region? = some r) :
    p.add combinator a =
      if p.spec.hasRegion then refuse combinator a
      else .ok { p with spec := p.spec.setRegion r } := by
  cases a with
  | region r' =>
    cases h
    rfl
  | latLon l =>
    cases h
    rfl
  | list items =>
    obtain ⟨l, hl, rfl⟩ := asPlace_of_region combinator h
    simp only [GeoParts.add, hl]
    rfl
  | _ => cases h

theorem geoScan_slot {kind : GeoKind} {names : GeoSpec} {a : Argument} {k : Slot}
    (h : (geoScan kind names).slot a = some k) :
    (∃ r, a.region? = some r) ∧ k = .region ∨
      (∃ os, a = .geoOptions os) ∧ k = .options ∨ (∃ s, a = .fragmentScope s) ∧ k = .scope ∨
      (∃ g, a = .heatmap g) ∧ k = .heatmap ∨ (∃ n, a = .bind n) ∧ k = .name := by
  cases a with
  | geoOptions os =>
    cases h
    exact .inr (.inl ⟨⟨os, rfl⟩, rfl⟩)
  | fragmentScope s =>
    cases h
    exact .inr (.inr (.inl ⟨⟨s, rfl⟩, rfl⟩))
  | heatmap g =>
    cases h
    exact .inr (.inr (.inr (.inl ⟨⟨g, rfl⟩, rfl⟩)))
  | bind n =>
    cases h
    exact .inr (.inr (.inr (.inr ⟨⟨n, rfl⟩, rfl⟩)))
  | region r =>
    cases h
    exact .inl ⟨⟨r, rfl⟩, rfl⟩
  | latLon l =>
    cases h
    exact .inl ⟨⟨.point l, rfl⟩, rfl⟩
  | list items =>
    obtain ⟨hsome, hk⟩ : (region? (.list items)).isSome = true ∧ Slot.region = k := by
      simpa [geoScan] using h
    exact .inl ⟨Option.isSome_iff_exists.1 hsome, hk.symm⟩
  | _ => cases h

theorem geoScan_strict (kind : GeoKind) {names : GeoSpec} (hbare : names.Bare) :
    (geoScan kind names).Strict where
  read_blank := by
    obtain ⟨h₁, h₂, h₃, -, -, -, -⟩ := hbare
    simp only [geoScan, GeoSpec.withRegion, List.findSome?_nil, ← h₁, ← h₂, ← h₃]
  refuses p a h := by
    cases a with
    | geoOptions _ | fragmentScope _ | heatmap _ | bind _ | region _ | latLon _ => cases h
    | list items =>
      have hplace : region? (.list items) = none := by simpa [geoScan] using h
      obtain ⟨o, ho⟩ := asPlace_refuses kind.combinator hplace
      simp only [geoScan, GeoParts.add, ho]
      split <;> exact ⟨_, rfl⟩
    | _ => exact ⟨_, rfl⟩
  files f a k h hroom := by
    have hadd : (geoScan kind names).add = GeoParts.add kind.combinator := rfl
    rw [hadd]
    obtain ⟨⟨r, hr⟩, rfl⟩ | ⟨⟨os, rfl⟩, rfl⟩ | ⟨⟨s, rfl⟩, rfl⟩ | ⟨⟨g, rfl⟩, rfl⟩ |
      ⟨⟨n, rfl⟩, rfl⟩ := geoScan_slot h
    · have hempty : ((geoScan kind names).read f).spec.hasRegion = false := by
        simp [geoScan, hroom rfl, GeoSpec.withRegion, GeoSpec.hasRegion, hbare.point,
          hbare.bounds, hbare.circle, hbare.polygon]
      rw [GeoParts.add_of_region _ _ hr, hempty, if_neg Bool.false_ne_true]
      simp only [geoScan, Sheet.file_same, Sheet.file_of_ne, hroom rfl, ne_eq, reduceCtorEq,
        not_false_eq_true, List.nil_append, List.findSome?_cons, List.findSome?_nil, hr]
      cases r <;> rfl
    · simp [geoScan, GeoParts.add, hroom rfl, options?]
    · simp [geoScan, GeoParts.add, hroom rfl, scope?]
    · simp [geoScan, GeoParts.add, hroom rfl, heatmap?]
    · simp [geoScan, GeoParts.add, hroom rfl, boundName?]
  full f a b k ha hb hk hf := by
    have hadd : (geoScan kind names).add = GeoParts.add kind.combinator := rfl
    rw [hadd]
    refine ⟨.argument a, ?_⟩
    obtain ⟨⟨r, hr⟩, rfl⟩ | ⟨⟨os, rfl⟩, rfl⟩ | ⟨⟨s, rfl⟩, rfl⟩ | ⟨⟨g, rfl⟩, rfl⟩ |
      ⟨⟨n, rfl⟩, rfl⟩ := geoScan_slot ha
    · obtain ⟨⟨r', hr'⟩, -⟩ : (∃ r', b.region? = some r') ∧ Slot.region = .region := by
        simpa using geoScan_slot hb
      have hfull : ((geoScan kind names).read f).spec.hasRegion = true := by
        simp only [geoScan, hf, List.findSome?_cons, hr', GeoSpec.withRegion]
        cases r' <;> simp [GeoSpec.setRegion, GeoSpec.hasRegion]
      rw [GeoParts.add_of_region _ _ hr, if_pos hfull]
      rfl
    · obtain ⟨os', rfl⟩ := by simpa using geoScan_slot hb
      simp [geoScan, GeoParts.add, hf, options?, refuse]
    · obtain ⟨s', rfl⟩ := by simpa using geoScan_slot hb
      simp [geoScan, GeoParts.add, hf, scope?, refuse]
    · obtain ⟨g', rfl⟩ := by simpa using geoScan_slot hb
      simp [geoScan, GeoParts.add, hf, heatmap?, refuse]
    · obtain ⟨n', rfl⟩ := by simpa using geoScan_slot hb
      simp [geoScan, GeoParts.add, hf, boundName?, refuse]

/-! ## The names of the index -/

/-- The function for each kind of index. -/
def geoOf : GeoKind → List Argument → Build Query
  | .attributePair => geoAttributePair
  | .element => geoElement
  | .elementPair => geoElementPair
  | .property => geoProperty
  | .propertyPair => geoPropertyPair
  | .path => geoPath

/-- How many arguments name a pair of attributes: an attribute at the start names its element
too. -/
def attributePairCount : List Argument → Nat
  | .index (.element _ (some _)) :: _ => 2
  | _ => 3

/-- The arguments that name the index, and those after them.  An element or property has its
parent before it if the first two arguments look like names. -/
def geoSplit : GeoKind → List Argument → List Argument × List Argument
  | .attributePair, args =>
    (args.take (attributePairCount args), args.drop (attributePairCount args))
  | .element, args => leadingTwo isElement args
  | .elementPair, args => (args.take 3, args.drop 3)
  | .property, args => leadingTwo isProperty args
  | .propertyPair, args => (args.take 3, args.drop 3)
  | .path, args => (args.take 1, args.drop 1)

theorem leadingTwo_append (isName : Argument → Bool) (args : List Argument) :
    (leadingTwo isName args).1 ++ (leadingTwo isName args).2 = args := by
  unfold leadingTwo
  repeat' split
  all_goals rfl

theorem geoSplit_append (kind : GeoKind) (args : List Argument) :
    (geoSplit kind args).1 ++ (geoSplit kind args).2 = args := by
  cases kind with
  | element => exact leadingTwo_append _ _
  | property => exact leadingTwo_append _ _
  | _ => exact List.take_append_drop _ _

/-- Rearranging what follows the names does not change how many arguments there are. -/
theorem length_eq_of_geoSplit (kind : GeoKind) {args args' : List Argument}
    (hstart : (geoSplit kind args).1 = (geoSplit kind args').1)
    (hrest : (geoSplit kind args).2.Perm (geoSplit kind args').2) : args.length = args'.length := by
  rw [← geoSplit_append kind args, ← geoSplit_append kind args', List.length_append,
    List.length_append, hstart, hrest.length_eq]

/-- The names of the index, from how many arguments there are and those that name it. -/
def geoNames : GeoKind → Nat → List Argument → Build GeoSpec
  | .attributePair, count, names =>
    if count < 3 then
      .error (.arity GeoKind.attributePair.combinator
        "need at least 3 parameters for a geospatial attribute pair query")
    else (attributePairNames 0 {} names).map Prod.fst
  | .element, _, [parent, element] => do
    let parent ← asElement GeoKind.element.combinator parent
    let element ← asElement GeoKind.element.combinator element
    .ok { parent := some parent, element := some element }
  | .element, _, [element] => do
    let element ← asElement GeoKind.element.combinator element
    .ok { element := some element }
  | .element, _, _ => .error (.arity GeoKind.element.combinator "missing element")
  | .elementPair, _, [parent, lat, lon] => do
    let parent ← asElement GeoKind.elementPair.combinator parent
    let lat ← asElement GeoKind.elementPair.combinator lat
    let lon ← asElement GeoKind.elementPair.combinator lon
    .ok { parent := some parent, lat := some lat, lon := some lon }
  | .elementPair, _, _ => .error (.arity GeoKind.elementPair.combinator
      "need at least 3 parameters for a geospatial element pair query")
  | .property, _, [parent, property] => do
    let parent ← asProperty GeoKind.property.combinator parent
    let property ← asProperty GeoKind.property.combinator property
    .ok { parentProperty := some parent, jsonProperty := some property }
  | .property, _, [property] => do
    let property ← asProperty GeoKind.property.combinator property
    .ok { jsonProperty := some property }
  | .property, _, _ => .error (.arity GeoKind.property.combinator "missing property")
  | .propertyPair, _, [parent, lat, lon] => do
    let parent ← asProperty GeoKind.propertyPair.combinator parent
    let lat ← asProperty GeoKind.propertyPair.combinator lat
    let lon ← asProperty GeoKind.propertyPair.combinator lon
    .ok { parentProperty := some parent, latProperty := some lat, lonProperty := some lon }
  | .propertyPair, _, _ => .error (.arity GeoKind.propertyPair.combinator
      "need at least 3 parameters for a geospatial property pair query")
  | .path, _, [.index (.path path)] => .ok { pathIndex := some path }
  | .path, _, [.text text] => .ok { pathIndex := some ⟨text, StringMap.empty⟩ }
  | .path, _, [.list parts] => do
    let path ← pathOfParts GeoKind.path.combinator parts
    .ok { pathIndex := some path }
  | .path, _, [a] => refuse GeoKind.path.combinator a
  | .path, _, _ => .error (.arity GeoKind.path.combinator "missing path")

/-- An argument that is not itself the name of an element fills the next place. -/
theorem attributePairNames_cons {place : Nat} {spec : GeoSpec} {a : Argument} {rest : List Argument}
    (hplace : place < 3) (ha : ∀ name attr, a ≠ .index (.element name attr)) :
    attributePairNames place spec (a :: rest) = (do
      let name ← a.asQName GeoKind.attributePair.combinator
      attributePairNames (place + 1) (setPairName spec place name) rest) := by
  conv => lhs; unfold attributePairNames
  rw [if_neg (Nat.not_le_of_lt hplace)]
  split
  · exact absurd rfl (ha _ _)
  · rfl

/-- Names and what follows them, with an end that is far enough off. -/
theorem attributePairNames_append (place : Nat) (spec : GeoSpec) (names rest : List Argument)
    (hplace : 1 ≤ place) (hnames : place + names.length = 3) :
    attributePairNames place spec (names ++ rest) =
      (attributePairNames place spec names).map fun r => (r.1, rest) := by
  induction names generalizing place spec with
  | nil =>
    have hend : 3 ≤ place := Nat.le_of_eq hnames.symm
    cases rest <;> simp [attributePairNames, hend, Except.map]
  | cons a names ih =>
    rw [List.length_cons] at hnames
    have hend : ¬3 ≤ place := by omega
    have hstart : place ≠ 0 := by omega
    have hnext := fun spec => ih (place + 1) spec (by omega) (by omega)
    rw [List.cons_append]
    unfold attributePairNames
    simp only [if_neg hend, if_neg hstart, hnext]
    split
    · split <;> rfl
    · cases a.asQName GeoKind.attributePair.combinator <;> rfl

theorem attributePairNames_split {args : List Argument} (h : 3 ≤ args.length) :
    attributePairNames 0 {} args =
      (attributePairNames 0 {} (geoSplit .attributePair args).1).map fun r =>
        (r.1, (geoSplit .attributePair args).2) := by
  match args, h with
  | a :: b :: c :: rest, _ =>
    have hthree := fun spec =>
      attributePairNames_append 1 spec [b, c] rest (Nat.le_refl 1) rfl
    have htwo := fun spec =>
      attributePairNames_append 2 spec [b] (c :: rest) (Nat.le_succ 1) rfl
    simp only [List.cons_append, List.nil_append] at hthree htwo
    by_cases hname : ∃ name attr, a = .index (.element name attr)
    · obtain ⟨name, attr, rfl⟩ := hname
      cases attr with
      | some attr =>
        change _ = (attributePairNames 0 {} [_, b]).map fun r => (r.1, c :: rest)
        unfold attributePairNames
        exact htwo _
      | none =>
        change _ = (attributePairNames 0 {} [_, b, c]).map fun r => (r.1, rest)
        unfold attributePairNames
        exact hthree _
    · have ha : ∀ name attr, a ≠ .index (.element name attr) := fun name attr h =>
        hname ⟨name, attr, h⟩
      have hcount : attributePairCount (a :: b :: c :: rest) = 3 := by
        unfold attributePairCount
        split
        · rename_i heq
          cases heq
          exact absurd rfl (ha _ _)
        · rfl
      have hsplit : geoSplit .attributePair (a :: b :: c :: rest) = ([a, b, c], rest) := by
        rw [geoSplit, hcount]
        rfl
      rw [hsplit, attributePairNames_cons (by decide) ha, attributePairNames_cons (by decide) ha]
      cases asQName GeoKind.attributePair.combinator a with
      | error e => rfl
      | ok name => exact hthree _

/-- The function of a kind reads the names of the index, and then scans what follows them. -/
theorem geoOf_eq (kind : GeoKind) (args : List Argument) :
    geoOf kind args = (do
      let split := geoSplit kind (spliceSole args)
      let names ← geoNames kind (spliceSole args).length split.1
      geo kind names split.2) := by
  generalize hspliced : spliceSole args = spliced
  cases kind with
  | attributePair =>
    simp only [geoOf, geoAttributePair, hspliced, geoNames]
    split
    · rfl
    · rename_i hcount
      rw [attributePairNames_split (Nat.le_of_not_lt hcount)]
      cases attributePairNames 0 {} (geoSplit .attributePair spliced).1 <;> rfl
  | element =>
    simp only [geoOf, geoElement, hspliced, geoSplit]
    match leadingTwo isElement spliced with
    | ([], _) => rfl
    | ([element], _) =>
      simp only [geoNames]
      cases asElement GeoKind.element.combinator element <;> rfl
    | ([parent, element], _) =>
      simp only [geoNames]
      cases asElement GeoKind.element.combinator parent with
      | error e => rfl
      | ok parent => cases asElement GeoKind.element.combinator element <;> rfl
    | (_ :: _ :: _ :: _, _) => rfl
  | elementPair =>
    simp only [geoOf, geoElementPair, hspliced, geoSplit]
    match spliced with
    | [] => rfl
    | [_] => rfl
    | [_, _] => rfl
    | parent :: lat :: lon :: rest =>
      simp only [geoNames, List.take_succ_cons, List.take_zero, List.drop_succ_cons,
        List.drop_zero]
      cases asElement GeoKind.elementPair.combinator parent with
      | error e => rfl
      | ok parent =>
        cases asElement GeoKind.elementPair.combinator lat with
        | error e => rfl
        | ok lat => cases asElement GeoKind.elementPair.combinator lon <;> rfl
  | property =>
    simp only [geoOf, geoProperty, hspliced, geoSplit]
    match leadingTwo isProperty spliced with
    | ([], _) => rfl
    | ([property], _) =>
      simp only [geoNames]
      cases asProperty GeoKind.property.combinator property <;> rfl
    | ([parent, property], _) =>
      simp only [geoNames]
      cases asProperty GeoKind.property.combinator parent with
      | error e => rfl
      | ok parent => cases asProperty GeoKind.property.combinator property <;> rfl
    | (_ :: _ :: _ :: _, _) => rfl
  | propertyPair =>
    simp only [geoOf, geoPropertyPair, hspliced, geoSplit]
    match spliced with
    | [] => rfl
    | [_] => rfl
    | [_, _] => rfl
    | parent :: lat :: lon :: rest =>
      simp only [geoNames, List.take_succ_cons, List.take_zero, List.drop_succ_cons,
        List.drop_zero]
      cases asProperty GeoKind.propertyPair.combinator parent with
      | error e => rfl
      | ok parent =>
        cases asProperty GeoKind.propertyPair.combinator lat with
        | error e => rfl
        | ok lat => cases asProperty GeoKind.propertyPair.combinator lon <;> rfl
  | path =>
    simp only [geoOf, geoPath, hspliced, geoSplit]
    match spliced with
    | [] => rfl
    | first :: rest =>
      cases first with
      | index i => cases i <;> rfl
      | list parts =>
        simp only [geoNames, List.take_succ_cons, List.take_zero, List.drop_succ_cons,
          List.drop_zero]
        cases pathOfParts GeoKind.path.combinator parts <;> rfl
      | _ => rfl

theorem asText_settles (combinator : String) (a : Argument) :
    Settles (fun _ => True) (a.asText combinator) := by
  cases a with
  | text s => exact .ok s trivial
  | _ => exact .unrecognized _ _

theorem asIndex_settles (combinator : String) (a : Argument) :
    Settles (fun _ => True) (a.asIndex combinator) := by
  cases a with
  | text name => exact .ok _ trivial
  | index i => exact .ok i trivial
  | _ => exact .unrecognized _ _

theorem ofArguments_settles (combinator : String) (args : List Argument) :
    Settles (fun _ => True) (QName.ofArguments combinator args) := by
  unfold QName.ofArguments
  split
  · exact .arity _ _
  · exact (asText_settles _ _).bind fun _ _ => .ok _ trivial
  · exact (asText_settles _ _).bind fun _ _ => (asText_settles _ _).bind fun _ _ => .ok _ trivial
  · exact .arity _ _

theorem asQName_settles (combinator : String) (a : Argument) :
    Settles (fun _ => True) (a.asQName combinator) := by
  unfold asQName
  split
  · exact .ok _ trivial
  · exact ofArguments_settles _ _
  · exact ofArguments_settles _ _

theorem asElement_settles (combinator : String) (a : Argument) :
    Settles (fun _ => True) (asElement combinator a) := by
  unfold asElement
  split
  · exact .ok _ trivial
  · exact asQName_settles _ _

theorem asProperty_settles (combinator : String) (a : Argument) :
    Settles (fun _ => True) (asProperty combinator a) := by
  unfold asProperty
  split
  · exact .ok _ trivial
  · exact asText_settles _ _

theorem namespacesOf_settles (combinator : String) (m : ValueMap) :
    Settles (fun _ => True) (namespacesOf combinator m) := by
  refine Settles.bind (p := fun _ => True) ?_ fun _ _ => .ok _ trivial
  induction m.toList with
  | nil => exact .ok _ trivial
  | cons entry rest ih =>
    rw [List.mapM_cons]
    refine Settles.bind (p := fun _ => True) ?_ fun _ _ => ih.bind fun _ _ => .ok _ trivial
    obtain ⟨key, v⟩ := entry
    dsimp only
    split
    · exact .ok _ trivial
    · exact .unrecognized _ _

theorem pathOfParts_settles (combinator : String) (parts : List Argument) :
    Settles (fun _ => True) (pathOfParts combinator parts) := by
  unfold pathOfParts
  split
  · exact .arity _ _
  · exact (asText_settles _ _).bind fun _ _ => .ok _ trivial
  · refine (asText_settles _ _).bind fun _ _ => ?_
    split
    · split
      · exact (namespacesOf_settles _ _).bind fun _ _ => .ok _ trivial
      · exact .unrecognized _ _
    · exact .unrecognized _ _

theorem bare_setPairName {spec : GeoSpec} (h : spec.Bare) (place : Nat) (name : QName) :
    (setPairName spec place name).Bare := by
  obtain ⟨h₁, h₂, h₃, h₄, h₅, h₆, h₇⟩ := h
  unfold setPairName
  split <;> exact ⟨h₁, h₂, h₃, h₄, h₅, h₆, h₇⟩

theorem attributePairNames_settles {place : Nat} {spec : GeoSpec} (hspec : spec.Bare)
    (args : List Argument) :
    Settles (fun r => r.1.Bare) (attributePairNames place spec args) := by
  induction args generalizing place spec with
  | nil =>
    unfold attributePairNames
    split
    · exact .ok _ hspec
    · exact .arity _ _
  | cons a rest ih =>
    unfold attributePairNames
    split
    · exact .ok _ hspec
    split
    · rename_i name attr
      simp only
      generalize hparent : (if (decide (place = 0) || spec.parent.isNone) = true then
        { spec with parent := some name } else spec) = parent
      have hbare : parent.Bare := by
        obtain ⟨h₁, h₂, h₃, h₄, h₅, h₆, h₇⟩ := hspec
        subst hparent
        split <;> exact ⟨h₁, h₂, h₃, h₄, h₅, h₆, h₇⟩
      cases attr with
      | some attr => exact ih (bare_setPairName hbare _ _)
      | none => exact ih hbare
    · exact (asQName_settles _ _).bind fun name _ => ih (bare_setPairName hspec _ _)

/-- The names of an index say nothing else, unless they do not fit. -/
theorem geoNames_settles (kind : GeoKind) (count : Nat) (args : List Argument) :
    Settles GeoSpec.Bare (geoNames kind count args) := by
  have hbare := GeoSpec.bare_of_names
  have helement := fun kind : GeoKind => asElement_settles kind.combinator
  have hproperty := fun kind : GeoKind => asProperty_settles kind.combinator
  unfold geoNames
  split
  · split
    · exact .arity _ _
    · exact (attributePairNames_settles (hbare ..) _).map fun _ h => h
  · exact (helement _ _).bind fun _ _ => (helement _ _).bind fun _ _ => .ok _ (hbare ..)
  · exact (helement _ _).bind fun _ _ => .ok _ (hbare ..)
  · exact .arity _ _
  · exact (helement _ _).bind fun _ _ => (helement _ _).bind fun _ _ =>
      (helement _ _).bind fun _ _ => .ok _ (hbare ..)
  · exact .arity _ _
  · exact (hproperty _ _).bind fun _ _ => (hproperty _ _).bind fun _ _ => .ok _ (hbare ..)
  · exact (hproperty _ _).bind fun _ _ => .ok _ (hbare ..)
  · exact .arity _ _
  · exact (hproperty _ _).bind fun _ _ => (hproperty _ _).bind fun _ _ =>
      (hproperty _ _).bind fun _ _ => .ok _ (hbare ..)
  · exact .arity _ _
  · exact .ok _ (hbare ..)
  · exact .ok _ (hbare ..)
  · exact (pathOfParts_settles _ _).bind fun _ _ => .ok _ (hbare ..)
  · exact .unrecognized _ _
  · exact .arity _ _

end Build

end SearchRequest
