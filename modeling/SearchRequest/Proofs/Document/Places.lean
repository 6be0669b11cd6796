import SearchRequest.Document.Geography
import SearchRequest.Proofs.Document.Names

/-!
# Places in documents

Regions and the bodies of geospatial nodes are read as they are written (`reads`), and what is
accepted for them is written no deeper than it was (`yields`).

* `LatLon`, `BoxBounds`, `Circle`, `Polygon` — regions.
* `Heatmap` — grids.
* `GeoSpec` — bodies.
-/

namespace SearchRequest

/-! ## Regions -/

theorem LatLon.reads (p : LatLon) : decoder.Reads p.node p := by
  obtain ⟨latitude, longitude⟩ := p
  exact .record (by decide)
    (.seq (.map (.required (.number latitude)) mk) (.required (.number longitude)))

theorem LatLon.yields : decoder.YieldsFitting node := by
  refine .record (.seq (.map (.required .number) ?_) (.required .number))
  intro room _ hlatitude _ hlongitude
  exact hlatitude.append hlongitude

theorem BoxBounds.reads (b : BoxBounds) : decoder.Reads b.node b := by
  obtain ⟨south, west, north, east⟩ := b
  exact .record (by decide)
    (.seq (.seq (.seq (.map (.required (.number south)) mk) (.required (.number west)))
      (.required (.number north))) (.required (.number east)))

theorem BoxBounds.yields : decoder.YieldsFitting node := by
  refine .record (.seq (.seq (.seq (.map (.required .number) ?_) (.required .number))
    (.required .number)) (.required .number))
  intro room _ hsouth _ hwest _ hnorth _ heast
  exact ((hsouth.append hwest).append hnorth).append heast

theorem Circle.reads (c : Circle) : decoder.Reads c.node c := by
  obtain ⟨radius, point⟩ := c
  exact .record (by decide) (.seq (.map (.required (.number radius)) mk)
    (.required (.listOf fun p _ => LatLon.reads p)))

theorem Circle.yields : decoder.YieldsFitting node := by
  refine .record (.seq (.map (.required .number) ?_) (.required (.listOf LatLon.yields)))
  intro room _ hradius _ hpoint
  exact hradius.append hpoint

theorem Polygon.reads (p : Polygon) : decoder.Reads p.node p := by
  obtain ⟨point⟩ := p
  exact .record (by decide) (.map (.required (.listOf fun p _ => LatLon.reads p)) mk)

theorem Polygon.yields : decoder.YieldsFitting node := by
  refine .record (.map (.required (.listOf LatLon.yields)) ?_)
  intro room _ hpoint
  exact hpoint

/-! ## Grids -/

theorem Heatmap.reads (h : Heatmap) : decoder.Reads h.node h := by
  obtain ⟨latdivs, londivs, s, w, n, e⟩ := h
  exact .record (by decide)
    (.seq (.seq (.seq (.seq (.seq (.map (.required (.number latdivs)) mk)
      (.required (.number londivs))) (.required (.number s))) (.required (.number w)))
      (.required (.number n))) (.required (.number e)))

theorem Heatmap.yields : decoder.YieldsFitting node := by
  refine .record (.seq (.seq (.seq (.seq (.seq (.map (.required .number) ?_) (.required .number))
    (.required .number)) (.required .number)) (.required .number)) (.required .number))
  intro room _ hlatdivs _ hlondivs _ hs _ hw _ hn _ he
  exact ((((hlatdivs.append hlondivs).append hs).append hw).append hn).append he

/-! ## Bodies -/

namespace GeoSpec

theorem reads (g : GeoSpec) : decoder.Reads g.node g := by
  obtain ⟨parent, element, lat, lon, parentProperty, jsonProperty, latProperty, lonProperty, path,
    options, scope, heatmap, point, bounds, circle, polygon⟩ := g
  refine .record (by decide) (.seq (.seq (.seq (.seq (.seq (.seq (.seq (.seq (.seq (.seq (.seq
    (.seq (.seq (.seq (.seq (.map ?_ mk) ?_) ?_) ?_) ?_) ?_) ?_) ?_) ?_) ?_) ?_) ?_) ?_) ?_) ?_) ?_)
  · exact .optional QName.reads .record
  · exact .optional QName.reads .record
  · exact .optional QName.reads .record
  · exact .optional QName.reads .record
  · exact .optional .string .string
  · exact .optional .string .string
  · exact .optional .string .string
  · exact .optional .string .string
  · exact .optional PathIndex.reads .record
  · exact .optional .strings .list
  · exact .optional FragmentScope.reads .oneOf
  · exact .optional Heatmap.reads .record
  · exact .optional (fun ps => .listOf fun p _ => LatLon.reads p) .list
  · exact .optional BoxBounds.reads .record
  · exact .optional Circle.reads .record
  · exact .optional Polygon.reads .record

theorem yields : decoder.YieldsFitting node := by
  refine .record (.seq (.seq (.seq (.seq (.seq (.seq (.seq (.seq (.seq (.seq (.seq (.seq (.seq
    (.seq (.seq (.map (.optional QName.yields) ?_)
      (.optional QName.yields)) (.optional QName.yields)) (.optional QName.yields))
      (.optional .string)) (.optional .string)) (.optional .string)) (.optional .string))
      (.optional PathIndex.yields)) (.optional .strings)) (.optional FragmentScope.yields))
      (.optional Heatmap.yields)) (.optional (.listOf LatLon.yields)))
      (.optional BoxBounds.yields)) (.optional Circle.yields)) (.optional Polygon.yields))
  intro _ _ hparent _ helement _ hlat _ hlon _ hparentProperty _ hproperty _ hlatProperty
    _ hlonProperty _ hpath _ hoptions _ hscope _ hheatmap _ hpoint _ hbounds _ hcircle _ hpolygon
  exact ((((((((((((((hparent.append helement).append hlat).append hlon).append
    hparentProperty).append hproperty).append hlatProperty).append hlonProperty).append
    hpath).append hoptions).append hscope).append hheatmap).append hpoint).append
    hbounds).append hcircle).append hpolygon

end GeoSpec

end SearchRequest
