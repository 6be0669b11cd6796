import SearchRequest.Build.Documents
import SearchRequest.Proofs.Build.FacetReading

/-!
# Declarations of indexes as sources of facets

An index that is named without criteria and without a binding is declared.  There are declarations
of the collections and of the geospatial indexes, and a facet takes the collections only.

* `Argument.IsGeoPart`, `DeclarationRest` — the arguments that may follow the names of an index that
  is declared: options, a scope and a grid.
* `GeoSpec.declared` — the body of the declaration.
* `Build.collection_eq_declaration_iff`, `Build.geoOf_eq_declaration_iff` — which calls declare an
  index, and what they declare.
* `Build.facet_refuses_geo` — a facet refuses arguments among which there is a declaration of a
  geospatial index.
* `Build.facet_declarations` — the declarations that are built, and what a facet makes of them.
-/

namespace SearchRequest

open Argument

/-! ## What follows the names of a declared index -/

namespace Argument

/-- Options of a geospatial index. -/
def geoOptions? : Argument → Option (List String)
  | .geoOptions os => some os
  | _ => none

/-- An argument says something about an index other than what to look for or which name to bind. -/
inductive IsGeoPart : Argument → Prop where
  /-- Options. -/
  | options (os : List String) : IsGeoPart (.geoOptions os)
  /-- Documents or properties. -/
  | scope (s : FragmentScope) : IsGeoPart (.fragmentScope s)
  /-- A grid. -/
  | heatmap (g : Heatmap) : IsGeoPart (.heatmap g)

end Argument

/-- All arguments are parts of a declaration, each kind of which comes no more than once. -/
structure DeclarationRest (rest : List Argument) : Prop where
  /-- Every argument is a part of a declaration. -/
  parts : ∀ a ∈ rest, a.IsGeoPart
  /-- There are options once at most. -/
  options : (rest.filterMap geoOptions?).length ≤ 1
  /-- There is one scope at most. -/
  scope : (rest.filterMap scope?).length ≤ 1
  /-- There is one grid at most. -/
  heatmap : (rest.filterMap heatmap?).length ≤ 1

/-- The body of a declaration, from the names of the index and the arguments after them. -/
def GeoSpec.declared (names : GeoSpec) (rest : List Argument) : GeoSpec :=
  { names with
    geoOption := rest.findSome? geoOptions?
    fragmentScope := rest.findSome? scope?
    heatmap := rest.findSome? heatmap? }

namespace Build

section Rest

variable (kind : GeoKind) (names : GeoSpec) {rest : List Argument}

theorem geoScan_options : Takes (geoScan kind names).slot .options geoOptions? :=
  takes_of_decide fun a => by cases a <;> first | rfl | simp [geoScan, geoOptions?]

theorem geoScan_scope : Takes (geoScan kind names).slot .scope scope? :=
  takes_of_decide fun a => by cases a <;> first | rfl | simp [geoScan, scope?]

theorem geoScan_heatmap : Takes (geoScan kind names).slot .heatmap heatmap? :=
  takes_of_decide fun a => by cases a <;> first | rfl | simp [geoScan, heatmap?]

/-- What the arguments after the names add up to. -/
theorem geoScan_read (rest : List Argument) :
    (geoScan kind names).read (sheetOf (geoScan kind names).slot rest) =
      { spec := (names.withRegion (rest.findSome? region?)).declared rest
        name := rest.findSome? boundName? } := by
  have hoptions : ∀ a, (geoOptions? a).isSome → options? a = geoOptions? a := by
    intro a ha
    cases a with
    | geoOptions os => rfl
    | _ => cases ha
  rw [GeoSpec.declared, ← (geoScan_options kind names).findSome?_sheetOf_of_agree hoptions,
    ← (IndexFunction.geoScan_region kind names).findSome?_sheetOf,
    ← (geoScan_scope kind names).findSome?_sheetOf,
    ← (geoScan_heatmap kind names).findSome?_sheetOf,
    ← (IndexFunction.geoScan_name kind names).findSome?_sheetOf]
  rfl

/-- Arguments may follow the names of a declared index if there is a slot and room for each, and
none of them is a region or a name. -/
theorem declarationRest_iff : DeclarationRest rest ↔
    (geoScan kind names).Filed rest ∧ Scan.Roomy (geoScan kind names).slot rest ∧
      rest.findSome? region? = none ∧ rest.findSome? boundName? = none := by
  have hoptions := (geoScan_options kind names).length_sheetOf rest
  have hscope := (geoScan_scope kind names).length_sheetOf rest
  have hheatmap := (geoScan_heatmap kind names).length_sheetOf rest
  rw [List.findSome?_eq_none_iff, List.findSome?_eq_none_iff]
  constructor
  · rintro ⟨hparts, ho, hs, hh⟩
    refine ⟨fun a ha => ?_, fun k _ => ?_, fun a ha => ?_, fun a ha => ?_⟩
    · cases hparts a ha <;> exact ⟨_, rfl⟩
    · by_cases hslot : ∃ a ∈ rest, (geoScan kind names).slot a = some k
      · obtain ⟨a, ha, hk⟩ := hslot
        cases hparts a ha with
        | options os =>
          cases hk
          exact hoptions ▸ ho
        | scope s =>
          cases hk
          exact hscope ▸ hs
        | heatmap g =>
          cases hk
          exact hheatmap ▸ hh
      · rw [sheetOf, List.filter_eq_nil_iff.2 fun a ha hk => hslot ⟨a, ha, of_decide_eq_true hk⟩]
        exact Nat.zero_le 1
    · cases hparts a ha <;> rfl
    · cases hparts a ha <;> rfl
  · rintro ⟨hfiled, hroomy, hregion, hname⟩
    refine ⟨fun a ha => ?_, hoptions ▸ hroomy _ rfl, hscope ▸ hroomy _ rfl,
      hheatmap ▸ hroomy _ rfl⟩
    obtain ⟨k, hk⟩ := hfiled a ha
    obtain ⟨⟨r, hr⟩, -⟩ | ⟨⟨os, rfl⟩, -⟩ | ⟨⟨s, rfl⟩, -⟩ | ⟨⟨g, rfl⟩, -⟩ | ⟨⟨n, rfl⟩, -⟩ :=
      geoScan_slot hk
    · rw [hregion a ha] at hr
      cases hr
    · exact .options os
    · exact .scope s
    · exact .heatmap g
    · cases hname _ ha

end Rest

/-! ## Which calls declare an index -/

/-- The parts after the names make a declaration exactly if there is no name and no region among
them. -/
theorem finish_eq_declaration_iff {kind : GeoKind} {names : GeoSpec} (hbare : names.Bare)
    {rest : List Argument} {d : IndexDeclaration} :
    GeoParts.finish kind
        { spec := (names.withRegion (rest.findSome? region?)).declared rest
          name := rest.findSome? boundName? } = .ok (.index d) ↔
      rest.findSome? region? = none ∧ rest.findSome? boundName? = none ∧
        d = .geo kind (names.declared rest) := by
  have hregion : ((names.withRegion (rest.findSome? region?)).declared rest).hasRegion =
      (rest.findSome? region?).isSome := GeoSpec.hasRegion_withRegion hbare _
  rw [GeoParts.finish, hregion]
  cases rest.findSome? region? with
  | none =>
    cases rest.findSome? boundName? with
    | none => simp [GeoSpec.withRegion, eq_comm]
    | some n => simp
  | some r => cases rest.findSome? boundName? <;> simp

/-- A geospatial function declares an index exactly if it is given the names of the index and parts
of a declaration; the declaration is of those names with those parts. -/
theorem geoOf_eq_declaration_iff {kind : GeoKind} {args start rest : List Argument}
    (hsplit : geoSplit kind (spliceSole args) = (start, rest)) {d : IndexDeclaration} :
    geoOf kind args = .ok (.index d) ↔
      ∃ names, geoNames kind (spliceSole args).length start = .ok names ∧
        DeclarationRest rest ∧ d = .geo kind (names.declared rest) := by
  rw [geoOf_eq, hsplit]
  simp only [bind_eq_ok_iff, geo]
  refine exists_congr fun names => and_congr_right fun hnames => ?_
  have hbare : names.Bare := by
    have hsettles := geoNames_settles kind (spliceSole args).length start
    rw [hnames] at hsettles
    cases hsettles with
    | ok _ hbare => exact hbare
  have hstrict := geoScan_strict kind hbare
  rw [declarationRest_iff kind names]
  constructor
  · rintro ⟨p, hfold, hfinish⟩
    obtain ⟨hfiled, hroomy, rfl⟩ := hstrict.guarded.eq_read hfold
    rw [geoScan_read, finish_eq_declaration_iff hbare] at hfinish
    obtain ⟨hregion, hname, hd⟩ := hfinish
    exact ⟨⟨hfiled, hroomy, hregion, hname⟩, hd⟩
  · rintro ⟨⟨hfiled, hroomy, hregion, hname⟩, hd⟩
    obtain ⟨-, hfold⟩ | ⟨hnot, -⟩ := hstrict.foldlM_cases hroomy
    · refine ⟨_, hfold, ?_⟩
      rw [geoScan_read, finish_eq_declaration_iff hbare]
      exact ⟨hregion, hname, hd⟩
    · exact absurd hfiled hnot

/-- The collections are declared by a call without arguments, and by no other one. -/
theorem collection_eq_declaration_iff {args : List Argument} {d : IndexDeclaration} :
    collection args = .ok (.index d) ↔ spliceSole args = [] ∧ d = .collection := by
  rw [collection]
  simp only [List.isEmpty_iff]
  split
  · rename_i hnil
    simp [hnil, eq_comm]
  · rename_i hcons
    refine iff_of_false (fun h => ?_) fun h => hcons h.1
    split at h
    · obtain ⟨p, -, h⟩ := bind_eq_ok h
      split at h
      · cases h
      · cases h
    · obtain ⟨us, -, h⟩ := bind_eq_ok h
      cases h

/-! ## What a facet makes of a declaration -/

/-- Only the declaration of the collections names a source. -/
theorem namesSource_declaration_iff {d : IndexDeclaration} {source : FacetSource} :
    (Argument.query (.index d)).NamesSource source ↔ d = .collection ∧ source = .collection := by
  constructor
  · rintro ⟨⟩
    exact ⟨rfl, rfl⟩
  · rintro ⟨rfl, rfl⟩
    exact .collection

/-- A declaration of a geospatial index is not taken as a source, wherever it stands. -/
theorem facet_refuses_geo {args : List Argument} {kind : GeoKind} {spec : GeoSpec}
    (h : .query (.index (.geo kind spec)) ∈ spliceSole args) :
    ∃ o, facet args = .error (.unrecognized "facet" o) := by
  have hsource : ∀ {a source}, Argument.NamesSource a source →
      .query (.index (.geo kind spec)) ≠ a := by
    rintro a source ha rfl
    cases (namesSource_declaration_iff.1 ha).1
  have htext : ∀ name, Argument.query (.index (.geo kind spec)) ≠ .text name := by
    intro name hname
    cases hname
  obtain hnil | ⟨a, rest, hargs, ha⟩ | ⟨name, source, rest, hhead⟩ :=
    exists_facetHead (spliceSole args)
  · rw [hnil] at h
    cases h
  · refine ⟨.argument a, ?_⟩
    rw [facet, hargs, facetHead_refuses ha]
    rfl
  · -- it is neither the name nor the source, and so it is among the parts
    have hmem : .query (.index (.geo kind spec)) ∈ rest := by
      generalize spliceSole args = spliced at h hhead
      cases hhead with
      | both name rest ha =>
        have hmem := (List.mem_cons.1 h).resolve_left (htext name)
        exact (List.mem_cons.1 hmem).resolve_left (hsource ha)
      | name name _ => exact (List.mem_cons.1 h).resolve_left (htext name)
      | source rest _ ha => exact (List.mem_cons.1 h).resolve_left (hsource ha)
    refine (facet_cases hhead).2.2 fun hrest => ?_
    cases hrest.parts _ hmem

/-- The collections are declared by a call without arguments, and a geospatial index by one with the
names of the index and the parts of a declaration.  A facet takes the collections as its source, but
refuses the declaration of a geospatial index, right after its name as anywhere else. -/
theorem facet_declarations (name : String) :
    (∀ args d, collection args = .ok (.index d) ↔ spliceSole args = [] ∧ d = .collection) ∧
    (∀ kind args start rest d, geoSplit kind (spliceSole args) = (start, rest) →
      (geoOf kind args = .ok (.index d) ↔
        ∃ names, geoNames kind (spliceSole args).length start = .ok names ∧
          DeclarationRest rest ∧ d = .geo kind (names.declared rest))) ∧
    (∀ d f, facet [.text name, .query (.index d)] = .ok f ↔
      d = .collection ∧ f = ⟨name, .collection true none⟩) ∧
    (∀ kind spec, facet [.text name, .query (.index (.geo kind spec))] =
      .error (.unrecognized "facet" (.argument (.query (.index (.geo kind spec)))))) ∧
    ∀ kind spec args, .query (.index (.geo kind spec)) ∈ spliceSole args →
      ∃ o, facet args = .error (.unrecognized "facet" o) := by
  have hgeo : ∀ kind spec, facet [.text name, .query (.index (.geo kind spec))] =
      .error (.unrecognized "facet" (.argument (.query (.index (.geo kind spec))))) :=
    fun kind spec => rfl
  refine ⟨fun args d => collection_eq_declaration_iff,
    fun kind args start rest d hsplit => geoOf_eq_declaration_iff hsplit, fun d f => ?_, hgeo,
    fun kind spec args h => facet_refuses_geo h⟩
  cases d with
  | collection =>
    have hok : facet [.text name, .query (.index .collection)] =
        .ok ⟨name, .collection true none⟩ := rfl
    rw [hok]
    simp [eq_comm]
  | geo kind spec =>
    rw [hgeo]
    simp

/-- A declaration of an element with options and a grid, between the source and a bucket. -/
theorem facet_declarations_between :
    let grid : Heatmap := ⟨.ofInt 2, .ofInt 4, .ofInt 0, .ofInt 0, .ofInt 8, .ofInt 8⟩
    let rest := [.geoOptions ["type=long-lat-point"], .heatmap grid]
    let names : GeoSpec := { element := some (.plain "place") }
    let declaration : Argument := .query (.index (.geo .element (names.declared rest)))
    geoOf .element (.text "place" :: rest) = .ok (.index (.geo .element (names.declared rest))) ∧
      ∃ o, facet [.text "places", .index (.field "place"), declaration,
        .bucket { name := "all", label := "all" }] = .error (.unrecognized "facet" o) := by
  intro grid rest names declaration
  obtain ⟨-, hdeclares, -, -, hrefuses⟩ := facet_declarations "places"
  have hrest : DeclarationRest rest :=
    { parts := by
        simp only [rest, List.forall_mem_cons]
        exact ⟨.options _, .heatmap _, nofun⟩
      options := Nat.le_refl 1
      scope := Nat.zero_le 1
      heatmap := Nat.le_refl 1 }
  constructor
  · exact (hdeclares .element _ [.text "place"] rest _ rfl).2 ⟨names, rfl, hrest, rfl⟩
  · exact hrefuses .element (names.declared rest) _ (by simp [spliceSole, declaration])

/-- The bare declaration of an element is no source of a facet. -/
theorem not_source_geo_element :
    ∃ d, geoOf .element [.text "loc"] = .ok (.index d) ∧
      facet [.text "places", .query (.index d)] =
        .error (.unrecognized "facet" (.argument (.query (.index d)))) ∧
      ¬∃ f, facet [.text "places", .query (.index d)] = .ok f := by
  refine ⟨.geo .element { element := some (.plain "loc") }, rfl, rfl, ?_⟩
  rintro ⟨f, hf⟩
  cases hf

end Build

end SearchRequest
