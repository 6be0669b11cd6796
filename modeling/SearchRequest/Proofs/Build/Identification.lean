import SearchRequest.Proofs.Build.Summaries

/-!
# What geospatial nodes identify

Every geospatial node names the index it reads.  Which names these are depends on the kind of index,
and each of them is taken from one of the arguments at the start.

* `Argument.Spells`, `Argument.NamesElement`, `Argument.NamesAttribute`, `Argument.NamesProperty`,
  `Argument.NamesPath` — what an argument names where a name of some kind is expected.
* `GeoKind.Identified` — the names of an index of a kind, from the arguments that name it.
* `GeoSpec.identity`, `GeoSpec.regionCount` — the names in a body, and how many regions it has.
* `Build.attributePairNames_start`, `Build.attributePairNames_place` — what one argument adds to the
  names of a pair of attributes.
* `Build.identified_attributePair_iff`, `Build.identified_of_geoNames` — the names that are read are
  all the names there are, but for a plain element where an attribute is expected.
* `Build.geoOf_identified` — every node is identified but for that, and has a region exactly if it
  is a query, under a key of its kind.
-/

namespace SearchRequest

open Argument

/-! ## What an argument names -/

namespace Argument

/-- An argument spells an XML name: as the name itself, as a text, or as a list of one or two
texts. -/
inductive Spells : Argument → QName → Prop where
  /-- The name itself. -/
  | name (q : QName) : Spells (.qname q) q
  /-- A text is a local name. -/
  | text (s : String) : Spells (.text s) (.plain s)
  /-- A list of a text is a local name. -/
  | plain {parts : List Argument} {s : String} (h : spliceSole parts = [.text s]) :
      Spells (.list parts) (.plain s)
  /-- A list of two texts is a namespace and a local name. -/
  | namespaced {parts : List Argument} {ns s : String}
      (h : spliceSole parts = [.text ns, .text s]) : Spells (.list parts) (.namespaced ns s)

/-- An argument names an element: as the name of an index, or by spelling it. -/
inductive NamesElement : Argument → QName → Prop where
  /-- An index on the element, or on an attribute of it. -/
  | index (q : QName) (attr : Option QName) : NamesElement (.index (.element q attr)) q
  /-- A spelling of the name. -/
  | spelt {a : Argument} {q : QName} (h : a.Spells q) : NamesElement a q

/-- An argument names an attribute: as the name of an index, or by spelling it. -/
inductive NamesAttribute : Argument → QName → Prop where
  /-- An index on the attribute. -/
  | index (element q : QName) : NamesAttribute (.index (.element element (some q))) q
  /-- A spelling of the name. -/
  | spelt {a : Argument} {q : QName} (h : a.Spells q) : NamesAttribute a q

/-- An argument names a property: as the name of an index, or as a text. -/
inductive NamesProperty : Argument → String → Prop where
  /-- An index on the property. -/
  | index (s : String) : NamesProperty (.index (.jsonProperty s)) s
  /-- A text. -/
  | text (s : String) : NamesProperty (.text s) s

/-- An argument names a path: as the name of an index, as a text, or as a list of a text and,
perhaps, the namespaces of its prefixes. -/
inductive NamesPath : Argument → PathIndex → Prop where
  /-- An index on the path. -/
  | index (p : PathIndex) : NamesPath (.index (.path p)) p
  /-- A text. -/
  | text (s : String) : NamesPath (.text s) ⟨s, StringMap.empty⟩
  /-- A list of a text. -/
  | plain (s : String) : NamesPath (.list [.text s]) ⟨s, StringMap.empty⟩
  /-- A list of a text and an object of texts. -/
  | namespaced {v : Value} {m : ValueMap} {namespaces : List (String × String)} (s : String)
      (more : List Argument) (hv : v.object? = some m)
      (h : List.Forall₂ (fun e n => n.1 = e.1 ∧ e.2.tree.string? = some n.2) m.toList namespaces) :
      NamesPath (.list (.text s :: .json v :: more)) ⟨s, StringMap.ofList namespaces⟩

variable {combinator : String} {a : Argument}

theorem asText_eq_ok {s : String} (h : a.asText combinator = .ok s) : a = .text s := by
  cases a with
  | text s' => rw [Except.ok.inj h]
  | _ => cases h

theorem ofArguments_eq_ok {args : List Argument} {q : QName}
    (h : QName.ofArguments combinator args = .ok q) :
    (∃ s, spliceSole args = [.text s] ∧ q = .plain s) ∨
      ∃ ns s, spliceSole args = [.text ns, .text s] ∧ q = .namespaced ns s := by
  unfold QName.ofArguments at h
  split at h
  · cases h
  · rename_i name hargs
    obtain ⟨s, hs, h⟩ := bind_eq_ok h
    cases h
    exact .inl ⟨s, by rw [hargs, asText_eq_ok hs], rfl⟩
  · rename_i ns name hargs
    obtain ⟨n, hn, h⟩ := bind_eq_ok h
    obtain ⟨s, hs, h⟩ := bind_eq_ok h
    cases h
    exact .inr ⟨n, s, by rw [hargs, asText_eq_ok hn, asText_eq_ok hs], rfl⟩
  · cases h

theorem spells_of_asQName {q : QName} (h : a.asQName combinator = .ok q) : a.Spells q := by
  cases a with
  | qname q' =>
    cases h
    exact .name _
  | list parts =>
    obtain ⟨s, hs, rfl⟩ | ⟨ns, s, hs, rfl⟩ := ofArguments_eq_ok h
    · exact .plain hs
    · exact .namespaced hs
  | text s =>
    cases h
    exact .text s
  | _ => cases h

theorem namesElement_of_asElement {q : QName} (h : Build.asElement combinator a = .ok q) :
    a.NamesElement q := by
  unfold Build.asElement at h
  split at h
  · cases h
    exact .index _ _
  · exact .spelt (spells_of_asQName h)

theorem namesProperty_of_asProperty {s : String} (h : Build.asProperty combinator a = .ok s) :
    a.NamesProperty s := by
  unfold Build.asProperty at h
  split at h
  · cases h
    exact .index _
  · rw [asText_eq_ok h]
    exact .text s

/-- Items that are read one by one, each as its own reading tells. -/
theorem forall₂_of_mapM {α β : Type} {f : α → Build β} {p : α → β → Prop}
    (hf : ∀ a b, f a = .ok b → p a b) {as : List α} {bs : List β} (h : as.mapM f = .ok bs) :
    List.Forall₂ p as bs := by
  induction as generalizing bs with
  | nil =>
    cases h
    exact .nil
  | cons a rest ih =>
    rw [List.mapM_cons] at h
    obtain ⟨b, hb, h⟩ := bind_eq_ok h
    obtain ⟨bs, hbs, h⟩ := bind_eq_ok h
    cases h
    exact .cons (hf a b hb) (ih hbs)

/-- Items that are read one by one are as many as what is read. -/
theorem length_of_mapM {α β : Type} {f : α → Build β} {as : List α} {bs : List β}
    (h : as.mapM f = .ok bs) : as.length = bs.length :=
  (forall₂_of_mapM (p := fun _ _ => True) (fun _ _ _ => trivial) h).length_eq

theorem eq_nil_iff_of_mapM {α β : Type} {f : α → Build β} {as : List α} {bs : List β}
    (h : as.mapM f = .ok bs) : bs = [] ↔ as = [] := by
  rw [← List.length_eq_zero_iff, ← length_of_mapM h, List.length_eq_zero_iff]

/-- Items that can be read one by one can all be read. -/
theorem mapM_of_forall₂ {α β : Type} {f : α → Build β} {as : List α} {bs : List β}
    (h : List.Forall₂ (fun a b => f a = .ok b) as bs) : as.mapM f = .ok bs := by
  induction h with
  | nil => rfl
  | cons ha _ ih =>
    rw [List.mapM_cons, ha, ih]
    rfl

theorem namespacesOf_eq_ok {m : ValueMap} {ns : StringMap}
    (h : Build.namespacesOf combinator m = .ok ns) :
    ∃ namespaces, ns = StringMap.ofList namespaces ∧
      List.Forall₂ (fun e n => n.1 = e.1 ∧ e.2.tree.string? = some n.2) m.toList namespaces := by
  obtain ⟨namespaces, hentries, h⟩ := bind_eq_ok h
  cases h
  refine ⟨namespaces, rfl, forall₂_of_mapM (fun e n hn => ?_) hentries⟩
  dsimp only at hn
  split at hn
  · rename_i huri
    cases hn
    exact ⟨rfl, huri⟩
  · cases hn

theorem namesPath_of_pathOfParts {parts : List Argument} {p : PathIndex}
    (h : Build.pathOfParts combinator parts = .ok p) : NamesPath (.list parts) p := by
  unfold Build.pathOfParts at h
  split at h
  · cases h
  · obtain ⟨s, hs, h⟩ := bind_eq_ok h
    cases h
    rw [asText_eq_ok hs]
    exact .plain s
  · obtain ⟨s, hs, h⟩ := bind_eq_ok h
    rw [asText_eq_ok hs]
    split at h
    · split at h
      · rename_i hv
        obtain ⟨ns, hns, h⟩ := bind_eq_ok h
        cases h
        obtain ⟨namespaces, rfl, hall⟩ := namespacesOf_eq_ok hns
        exact .namespaced s _ hv hall
      · cases h
    · cases h

end Argument

/-! ## What a node names -/

/-- The names of an index of a kind, from the arguments at the start. -/
inductive GeoKind.Identified : GeoKind → List Argument → GeoSpec → Prop where
  /-- An element, and two attributes of it. -/
  | attributePair {a b c : Argument} {parent lat lon : QName} (hparent : a.NamesElement parent)
      (hlat : b.NamesAttribute lat) (hlon : c.NamesAttribute lon) :
      Identified .attributePair [a, b, c]
        { parent := some parent, lat := some lat, lon := some lon }
  /-- An attribute with its element, and another attribute. -/
  | attributeFirst (parent lat : QName) {b : Argument} {lon : QName} (hlon : b.NamesAttribute lon) :
      Identified .attributePair [.index (.element parent (some lat)), b]
        { parent := some parent, lat := some lat, lon := some lon }
  /-- An element. -/
  | element {a : Argument} {element : QName} (h : a.NamesElement element) :
      Identified .element [a] { element := some element }
  /-- An element inside another. -/
  | elementInside {a b : Argument} {parent element : QName} (hparent : a.NamesElement parent)
      (h : b.NamesElement element) :
      Identified .element [a, b] { parent := some parent, element := some element }
  /-- An element, and two elements inside it. -/
  | elementPair {a b c : Argument} {parent lat lon : QName} (hparent : a.NamesElement parent)
      (hlat : b.NamesElement lat) (hlon : c.NamesElement lon) :
      Identified .elementPair [a, b, c] { parent := some parent, lat := some lat, lon := some lon }
  /-- A property. -/
  | property {a : Argument} {property : String} (h : a.NamesProperty property) :
      Identified .property [a] { jsonProperty := some property }
  /-- A property inside another. -/
  | propertyInside {a b : Argument} {parent property : String} (hparent : a.NamesProperty parent)
      (h : b.NamesProperty property) :
      Identified .property [a, b] { parentProperty := some parent, jsonProperty := some property }
  /-- A property, and two properties inside it. -/
  | propertyPair {a b c : Argument} {parent lat lon : String} (hparent : a.NamesProperty parent)
      (hlat : b.NamesProperty lat) (hlon : c.NamesProperty lon) :
      Identified .propertyPair [a, b, c]
        { parentProperty := some parent, latProperty := some lat, lonProperty := some lon }
  /-- A path. -/
  | path {a : Argument} {path : PathIndex} (h : a.NamesPath path) :
      Identified .path [a] { pathIndex := some path }

namespace GeoSpec

/-- The names in a body, without anything else. -/
def identity (g : GeoSpec) : GeoSpec where
  parent := g.parent
  element := g.element
  lat := g.lat
  lon := g.lon
  parentProperty := g.parentProperty
  jsonProperty := g.jsonProperty
  latProperty := g.latProperty
  lonProperty := g.lonProperty
  pathIndex := g.pathIndex

/-- How many of the fields for regions are there. -/
def regionCount (g : GeoSpec) : Nat :=
  g.point.isSome.toNat + g.bounds.isSome.toNat + g.circle.isSome.toNat + g.polygon.isSome.toNat

theorem identity_of_bare {g : GeoSpec} (h : g.Bare) : g.identity = g := by
  obtain ⟨h₁, h₂, h₃, h₄, h₅, h₆, h₇⟩ := h
  cases g
  simp_all [identity]

theorem identity_withRegion (g : GeoSpec) (r : Option Region) :
    (g.withRegion r).identity = g.identity := by
  cases r with
  | none => rfl
  | some r => cases r <;> rfl

theorem regionCount_withRegion {g : GeoSpec} (h : g.Bare) (r : Option Region) :
    (g.withRegion r).regionCount = r.isSome.toNat := by
  cases r with
  | none => simp [withRegion, regionCount, h.point, h.bounds, h.circle, h.polygon]
  | some r =>
    cases r <;> simp [withRegion, setRegion, regionCount, h.point, h.bounds, h.circle, h.polygon]

end GeoSpec

namespace Build

/-! ## Names that are read -/

section Names

variable {kind : GeoKind} {args start rest : List Argument} {names : GeoSpec}

/-- What an argument names where an attribute is expected; a plain element is let through there and
names nothing. -/
inductive AttributeAt : Argument → Option QName → Prop where
  /-- An attribute. -/
  | named {a : Argument} {q : QName} (h : a.NamesAttribute q) : AttributeAt a (some q)
  /-- A plain element. -/
  | plain (element : QName) : AttributeAt (.index (.element element none)) none

theorem AttributeAt.isSome_iff {a : Argument} {o : Option QName} (h : AttributeAt a o) :
    o.isSome ↔ ∀ element, a ≠ .index (.element element none) := by
  cases h with
  | named h =>
    refine iff_of_true rfl fun element ha => ?_
    subst ha
    cases h with
    | spelt h => cases h
  | plain element => exact iff_of_false Bool.false_ne_true fun h => h element rfl

/-- An argument after the parent fills the next place, or it leaves it empty. -/
theorem attributePairNames_place {place : Nat} {spec : GeoSpec} {a : Argument}
    {r : GeoSpec × List Argument} (hplace : place = 1 ∨ place = 2) (hparent : spec.parent.isSome)
    (h : attributePairNames place spec (a :: rest) = .ok r) :
    ∃ o, AttributeAt a o ∧
      attributePairNames (place + 1) (o.elim spec (setPairName spec place)) rest = .ok r := by
  have hend : ¬3 ≤ place := by omega
  have hstart : place ≠ 0 := by omega
  have hnone : spec.parent.isNone = false := Option.isNone_eq_false_iff.2 hparent
  unfold attributePairNames at h
  simp only [if_neg hend, hnone, hstart, decide_false, Bool.or_self, Bool.false_eq_true,
    if_false] at h
  split at h
  · rename_i name attr
    cases attr with
    | some attr => exact ⟨some attr, .named (.index name attr), h⟩
    | none => exact ⟨none, .plain name, h⟩
  · obtain ⟨name, hname, h⟩ := bind_eq_ok h
    exact ⟨some name, .named (.spelt (spells_of_asQName hname)), h⟩

/-- The argument at the start names the parent, and the latitude as well if it is an attribute. -/
theorem attributePairNames_start {a : Argument} {r : GeoSpec × List Argument}
    (h : attributePairNames 0 {} (a :: rest) = .ok r) :
    (∃ parent lat, a = .index (.element parent (some lat)) ∧
      attributePairNames 2 { parent := some parent, lat := some lat } rest = .ok r) ∨
    (∀ parent lat, a ≠ .index (.element parent (some lat))) ∧ ∃ parent, a.NamesElement parent ∧
      attributePairNames 1 { parent := some parent } rest = .ok r := by
  unfold attributePairNames at h
  rw [if_neg (by decide)] at h
  split at h
  · rename_i name attr
    cases attr with
    | some attr => exact .inl ⟨name, attr, rfl, h⟩
    | none => exact .inr ⟨nofun, name, .index name none, h⟩
  · rename_i hindex
    obtain ⟨name, hname, h⟩ := bind_eq_ok h
    exact .inr ⟨fun parent lat => hindex parent (some lat), name,
      .spelt (spells_of_asQName hname), h⟩

theorem attributePairNames_end {spec : GeoSpec} {r : GeoSpec × List Argument}
    (h : attributePairNames 3 spec [] = .ok r) : r.1 = spec := by
  unfold attributePairNames at h
  cases h
  rfl

theorem identified_three_iff {a b c : Argument} {parent : QName} {lat lon : Option QName}
    (ha : ∀ parent lat, a ≠ .index (.element parent (some lat))) (hparent : a.NamesElement parent)
    (hlat : AttributeAt b lat) (hlon : AttributeAt c lon) :
    GeoKind.Identified .attributePair [a, b, c] { parent := some parent, lat, lon } ↔
      ∀ element, .index (.element element none) ∉ [b, c] := by
  have hplain : (∀ element, .index (.element element none) ∉ [b, c]) ↔ lat.isSome ∧ lon.isSome := by
    rw [hlat.isSome_iff, hlon.isSome_iff, ← forall_and]
    refine forall_congr' fun element => ?_
    rw [List.mem_pair, not_or, ne_comm, @ne_comm _ c]
  rw [hplain]
  constructor
  · intro h
    cases h
    exact ⟨rfl, rfl⟩
  · rintro ⟨hlatSome, hlonSome⟩
    cases hlat with
    | plain => cases hlatSome
    | named hlat =>
      cases hlon with
      | plain => cases hlonSome
      | named hlon => exact .attributePair hparent hlat hlon

theorem identified_two_iff {parent lat : QName} {b : Argument} {lon : Option QName}
    (hlon : AttributeAt b lon) :
    GeoKind.Identified .attributePair [.index (.element parent (some lat)), b]
        { parent := some parent, lat := some lat, lon } ↔
      ∀ element, .index (.element element none) ∉ [b] := by
  have hplain : (∀ element, .index (.element element none) ∉ [b]) ↔ lon.isSome := by
    rw [hlon.isSome_iff]
    refine forall_congr' fun element => ?_
    rw [List.mem_singleton, ne_comm]
  rw [hplain]
  constructor
  · intro h
    cases h
    rfl
  · intro hlonSome
    cases hlon with
    | plain => cases hlonSome
    | named hlon => exact .attributeFirst parent lat hlon

/-- The arguments that name a pair of attributes: an attribute, which names its element too, and one
more, or three. -/
theorem attributePair_start (hcount : 3 ≤ args.length)
    (hsplit : geoSplit .attributePair args = (start, rest)) :
    (∃ parent lat b, start = [.index (.element parent (some lat)), b]) ∨
      ∃ a b c, (∀ parent lat, a ≠ .index (.element parent (some lat))) ∧ start = [a, b, c] := by
  obtain ⟨hstart, -⟩ := Prod.mk.inj hsplit
  match args, hcount with
  | a :: b :: c :: more, _ =>
    by_cases hfirst : ∃ parent lat, a = .index (.element parent (some lat))
    · obtain ⟨parent, lat, rfl⟩ := hfirst
      exact .inl ⟨parent, lat, b, hstart.symm⟩
    · have ha : ∀ parent lat, a ≠ .index (.element parent (some lat)) := fun parent lat h =>
        hfirst ⟨parent, lat, h⟩
      refine .inr ⟨a, b, c, ha, ?_⟩
      unfold attributePairCount at hstart
      split at hstart
      · rename_i heq
        cases heq
        exact absurd rfl (ha _ _)
      · exact hstart.symm

/-- A pair of attributes has all its names, unless there is a plain element after the parent. -/
theorem identified_attributePair_iff (hsplit : geoSplit .attributePair args = (start, rest))
    (h : geoNames .attributePair args.length start = .ok names) :
    GeoKind.Identified .attributePair start names ↔
      ∀ element, .index (.element element none) ∉ start.tail := by
  simp only [geoNames] at h
  split at h
  · cases h
  rename_i hcount
  obtain ⟨r, hr, rfl⟩ := map_eq_ok h
  obtain ⟨parent, lat, b, rfl⟩ | ⟨a, b, c, ha, rfl⟩ :=
    attributePair_start (Nat.le_of_not_lt hcount) hsplit
  · obtain ⟨parent', lat', hfirst, h⟩ | ⟨hfirst, -⟩ := attributePairNames_start hr
    · cases hfirst
      obtain ⟨lon, hlon, h⟩ := attributePairNames_place (.inr rfl) rfl h
      rw [attributePairNames_end h]
      cases lon <;> exact identified_two_iff hlon
    · exact absurd rfl (hfirst parent lat)
  · obtain ⟨parent, lat, hfirst, -⟩ | ⟨-, parent, hparent, h⟩ := attributePairNames_start hr
    · exact absurd hfirst (ha parent lat)
    · obtain ⟨lat, hlat, h⟩ := attributePairNames_place (.inl rfl) rfl h
      obtain ⟨lon, hlon, h⟩ := attributePairNames_place (.inr rfl) (by cases lat <;> rfl) h
      rw [attributePairNames_end h]
      cases lat <;> cases lon <;> exact identified_three_iff ha hparent hlat hlon

/-- An index of any other kind has all its names. -/
theorem identified_of_geoNames {count : Nat} (hkind : kind ≠ .attributePair)
    (h : geoNames kind count start = .ok names) : kind.Identified start names := by
  unfold geoNames at h
  split at h
  · exact absurd rfl hkind
  · obtain ⟨parent, hparent, h⟩ := bind_eq_ok h
    obtain ⟨element, helement, h⟩ := bind_eq_ok h
    cases h
    exact .elementInside (namesElement_of_asElement hparent) (namesElement_of_asElement helement)
  · obtain ⟨element, helement, h⟩ := bind_eq_ok h
    cases h
    exact .element (namesElement_of_asElement helement)
  · cases h
  · obtain ⟨parent, hparent, h⟩ := bind_eq_ok h
    obtain ⟨lat, hlat, h⟩ := bind_eq_ok h
    obtain ⟨lon, hlon, h⟩ := bind_eq_ok h
    cases h
    exact .elementPair (namesElement_of_asElement hparent) (namesElement_of_asElement hlat)
      (namesElement_of_asElement hlon)
  · cases h
  · obtain ⟨parent, hparent, h⟩ := bind_eq_ok h
    obtain ⟨property, hproperty, h⟩ := bind_eq_ok h
    cases h
    exact .propertyInside (namesProperty_of_asProperty hparent)
      (namesProperty_of_asProperty hproperty)
  · obtain ⟨property, hproperty, h⟩ := bind_eq_ok h
    cases h
    exact .property (namesProperty_of_asProperty hproperty)
  · cases h
  · obtain ⟨parent, hparent, h⟩ := bind_eq_ok h
    obtain ⟨lat, hlat, h⟩ := bind_eq_ok h
    obtain ⟨lon, hlon, h⟩ := bind_eq_ok h
    cases h
    exact .propertyPair (namesProperty_of_asProperty hparent) (namesProperty_of_asProperty hlat)
      (namesProperty_of_asProperty hlon)
  · cases h
  · cases h
    exact .path (.index _)
  · cases h
    exact .path (.text _)
  · obtain ⟨path, hpath, h⟩ := bind_eq_ok h
    cases h
    exact .path (namesPath_of_pathOfParts hpath)
  · cases h
  · cases h

end Names

/-! ## Nodes that are built -/

/-- A query, constraint or declaration has a body of the kind, under its key, and has a region if it
is a query. -/
inductive GeoNode (kind : GeoKind) (g : GeoSpec) : Query → Prop where
  /-- A query has one region, and its key says that it is a query. -/
  | criteria (hregion : g.regionCount = 1)
      (hjson : (Query.criteria (.geo kind g)).node.toJson =
        .object [(kind.key ++ "-query", g.node.toJson)]) : GeoNode kind g (.criteria (.geo kind g))
  /-- A constraint has no region. -/
  | constraint (name : String) (hregion : g.regionCount = 0)
      (hjson : (Query.constraint ⟨name, .geo kind g⟩).node.toJson =
        .object [("name", .string name), (kind.key, g.node.toJson)]) :
      GeoNode kind g (.constraint ⟨name, .geo kind g⟩)
  /-- A declaration has no region. -/
  | declaration (hregion : g.regionCount = 0)
      (hjson : (Query.index (.geo kind g)).node.toJson =
        .object [(kind.key, g.node.toJson)]) : GeoNode kind g (.index (.geo kind g))

theorem geoNode_of_finish {kind : GeoKind} {p : GeoParts} {q : Query}
    (hregion : p.spec.regionCount = p.spec.hasRegion.toNat) (h : p.finish kind = .ok q) :
    GeoNode kind p.spec q := by
  unfold GeoParts.finish at h
  split at h
  · cases h
  · rename_i name _ hnone
    cases h
    exact .constraint name (by rw [hregion, hnone]; rfl) rfl
  · rename_i _ hsome
    cases h
    exact .criteria (by rw [hregion, hsome]; rfl) rfl
  · rename_i _ hnone
    cases h
    exact .declaration (by rw [hregion, hnone]; rfl) rfl

/-- Whatever is built of arguments for a geospatial index has all names of the index, each from one
of the arguments at the start, unless an attribute is expected where there is a plain element; it
has one region if it is a query and none otherwise, and stands under the key of its kind. -/
theorem geoOf_identified {kind : GeoKind} {args start rest : List Argument} {q : Query}
    (hsplit : geoSplit kind (spliceSole args) = (start, rest)) (h : geoOf kind args = .ok q) :
    ∃ g, GeoNode kind g q ∧
      (kind.Identified start g.identity ↔
        (kind = .attributePair → ∀ element, .index (.element element none) ∉ start.tail)) := by
  rw [geoOf_eq, hsplit] at h
  obtain ⟨names, hnames, h⟩ := bind_eq_ok h
  obtain ⟨p, hfold, hfinish⟩ := bind_eq_ok h
  have hbare : names.Bare := by
    have hsettles := geoNames_settles kind (spliceSole args).length start
    rw [hnames] at hsettles
    cases hsettles with
    | ok _ hbare => exact hbare
  obtain ⟨-, -, hp⟩ := (geoScan_strict kind hbare).guarded.eq_read hfold
  generalize hr : (sheetOf (geoScan kind names).slot rest .region).findSome? region? = r
  have hidentity : p.spec.identity = names := by
    have hsame : p.spec.identity = (names.withRegion r).identity := by
      rw [hp, ← hr]
      rfl
    rw [hsame, GeoSpec.identity_withRegion, GeoSpec.identity_of_bare hbare]
  have hregion : p.spec.regionCount = p.spec.hasRegion.toNat := by
    have hcount := GeoSpec.regionCount_withRegion hbare r
    have hhas := GeoSpec.hasRegion_withRegion hbare r
    rw [← hhas, ← hr] at hcount
    rw [hp]
    exact hcount
  refine ⟨p.spec, geoNode_of_finish hregion hfinish, ?_⟩
  rw [hidentity]
  by_cases hkind : kind = .attributePair
  · subst hkind
    rw [identified_attributePair_iff hsplit hnames]
    exact ⟨fun h _ => h, fun h => h rfl⟩
  · exact iff_of_true (identified_of_geoNames hkind hnames) fun h => absurd h hkind

/-- An attribute at the start names the parent and the latitude; the longitude is a text. -/
theorem geoOf_identified_attribute_first :
    let start := [.index (.element (.plain "place") (some (.plain "lat"))), .text "lon"]
    let args := start ++ [.latLon ⟨.ofInt 1, .ofInt 2⟩]
    ∃ q g, geoOf .attributePair args = .ok q ∧ GeoNode .attributePair g q ∧
      GeoKind.Identified .attributePair start g.identity := by
  intro start args
  obtain ⟨q, hq⟩ : ∃ q, geoOf .attributePair args = .ok q := ⟨_, rfl⟩
  obtain ⟨g, hnode, hidentified⟩ := @geoOf_identified .attributePair args start _ q rfl hq
  refine ⟨q, g, hq, hnode, hidentified.2 fun _ element h => ?_⟩
  cases h with
  | tail _ h => cases h

/-- A plain element where the latitude is expected is let through and not used: the query has no
latitude. -/
theorem not_identified_plain_element :
    let start := [.text "place", .index (.element (.plain "lat") none), .text "lon"]
    let args := start ++ [.latLon ⟨.ofInt 1, .ofInt 2⟩]
    ∃ g, geoOf .attributePair args = .ok (.criteria (.geo .attributePair g)) ∧ g.lat = none ∧
      ¬GeoKind.Identified .attributePair start g.identity := by
  intro start args
  refine ⟨_, rfl, rfl, fun h => ?_⟩
  have hfirst : ∀ parent lat, Argument.text "place" ≠ .index (.element parent (some lat)) := nofun
  have hplain := (identified_three_iff hfirst (.spelt (.text "place")) (.plain (.plain "lat"))
    (.named (.spelt (.text "lon")))).1 h
  exact hplain (.plain "lat") List.mem_cons_self

end Build

end SearchRequest
