import SearchRequest.Proofs.Build.Identification
import SearchRequest.Proofs.Build.Splicing

/-!
# The spellings of a place

A place is spelled as itself, as the region of it, or as a list of its two numbers.  The functions
that take places read all three alike, wherever they stand among the arguments.

* `Argument.SpellsPlace`, `Argument.Interchangeable` — the spellings of a place, and arguments that
  are the same but for the spelling.
* `RefusesPlaces` — a reader that takes no place, however it is spelled.
* `Build.point_alike`, `Build.circle_alike`, `Build.polygon_eq`, `Build.geoOf_alike` — the functions
  that take places.
* `ListFunction.TakesPlaces`, `ListFunction.call_alike` — all of them, also where a list among the
  arguments would stand for its items.
* `ListFunction.places_interchangeable` — the three spellings are interchangeable.
-/

namespace SearchRequest

namespace Argument

/-- An argument spells a place. -/
inductive SpellsPlace : Argument → LatLon → Prop where
  /-- The place itself. -/
  | latLon (p : LatLon) : SpellsPlace (.latLon p) p
  /-- The region of the place. -/
  | region (p : LatLon) : SpellsPlace (.region (.point p)) p
  /-- The two numbers of the place. -/
  | numbers (p : LatLon) : SpellsPlace (.list [.number p.latitude, .number p.longitude]) p

/-- Two arguments are the same, or spell the same place. -/
inductive Interchangeable : Argument → Argument → Prop where
  /-- The same argument. -/
  | same (a : Argument) : Interchangeable a a
  /-- Two spellings of a place. -/
  | places {a a' : Argument} {p : LatLon} (h : a.SpellsPlace p) (h' : a'.SpellsPlace p) :
    Interchangeable a a'

end Argument

open Argument

/-- A reader refuses every place, however it is spelled. -/
def RefusesPlaces {β : Type} (f : Argument → Build β) : Prop :=
  ∀ a p, a.SpellsPlace p → ∃ combinator o, f a = .error (.unrecognized combinator o)

section Readers

variable {a a' : Argument} {p : LatLon} {combinator : String}

theorem Argument.SpellsPlace.asPlace_eq (h : a.SpellsPlace p) : a.asPlace combinator = .ok p := by
  cases h <;> rfl

theorem Argument.SpellsPlace.region?_eq (h : a.SpellsPlace p) : a.region? = some (.point p) := by
  cases h <;> rfl

theorem Argument.SpellsPlace.ne_element (h : a.SpellsPlace p) (name : QName)
    (attr : Option QName) : a ≠ .index (.element name attr) := by
  cases h <;> simp

theorem Argument.Interchangeable.asPlace_eq (h : a.Interchangeable a') :
    a.asPlace combinator = a'.asPlace combinator := by
  cases h with
  | same => rfl
  | places h h' => rw [h.asPlace_eq, h'.asPlace_eq]

theorem Argument.Interchangeable.eq_of_number {n : Number}
    (h : (Argument.number n).Interchangeable a) : a = .number n := by
  cases h with
  | same => rfl
  | places h => cases h

theorem Argument.Interchangeable.symm (h : a.Interchangeable a') : a'.Interchangeable a := by
  cases h with
  | same => exact .same _
  | places h h' => exact .places h' h

/-- A reader that refuses places takes interchangeable arguments alike. -/
theorem RefusesPlaces.alike {β : Type} {f : Argument → Build β} (hf : RefusesPlaces f)
    (h : a.Interchangeable a') : Build.Alike (f a) (f a') := by
  cases h with
  | same => exact .same _
  | places h h' =>
    obtain ⟨c, o, ho⟩ := hf _ _ h
    obtain ⟨c', o', ho'⟩ := hf _ _ h'
    rw [ho, ho']
    exact .refused _ _ _ _

theorem refusesPlaces_asNumber (combinator : String) : RefusesPlaces (asNumber combinator) :=
  fun _ _ h => by cases h <;> exact ⟨_, _, rfl⟩

theorem refusesPlaces_asQName (combinator : String) : RefusesPlaces (asQName combinator) :=
  fun _ _ h => by cases h <;> exact ⟨_, _, rfl⟩

theorem refusesPlaces_asElement (combinator : String) :
    RefusesPlaces (Build.asElement combinator) :=
  fun _ _ h => by cases h <;> exact ⟨_, _, rfl⟩

theorem refusesPlaces_asProperty (combinator : String) :
    RefusesPlaces (Build.asProperty combinator) :=
  fun _ _ h => by cases h <;> exact ⟨_, _, rfl⟩

end Readers

namespace Build

variable {items items' : List Argument}

/-! ## Regions -/

theorem point_alike (h : List.Forall₂ Interchangeable items items') :
    Alike (point [.list items]) (point [.list items']) := by
  have hnumber := refusesPlaces_asNumber "point"
  match items, items', h with
  | [], [], _ => exact .same _
  | [_], [_], .cons ha .nil =>
    refine .bind (.of_eq ?_) fun _ => .same _
    exact ha.asPlace_eq
  | [_, _], [_, _], .cons ha (.cons hb .nil) =>
    refine .bind ?_ fun _ => .same _
    exact (hnumber.alike ha).bind fun _ => (hnumber.alike hb).bind fun _ => .same _
  | _ :: _ :: _ :: rest, _ :: _ :: _ :: rest', .cons _ (.cons _ (.cons _ h)) =>
    simp only [point, spliceSole, List.length_cons, h.length_eq]
    exact .same _

/-- Two arguments are a centre only if they are numbers with nothing after them. -/
theorem centre_of_two (a b : Argument) (rest : List Argument) :
    (∃ x y, a = .number x ∧ b = .number y ∧ rest = []) ∨
      ∃ o, centre (a :: b :: rest) = .error (.unrecognized "circle" o) := by
  by_cases hnumbers : ∃ x y, a = .number x ∧ b = .number y ∧ rest = []
  · exact .inl hnumbers
  · right
    unfold centre
    split
    · rename_i heq
      cases heq
    · rename_i heq
      cases heq
    · rename_i heq
      cases heq
      exact absurd ⟨_, _, rfl, rfl, rfl⟩ hnumbers
    · exact ⟨_, rfl⟩
    · exact ⟨_, rfl⟩

theorem centre_alike (h : List.Forall₂ Interchangeable items items') :
    Alike (centre items) (centre items') := by
  match items, items', h with
  | [], [], _ => exact .same _
  | [_], [_], .cons ha .nil => exact .of_eq ha.asPlace_eq
  | a :: b :: rest, a' :: b' :: rest', .cons ha (.cons hb hrest) =>
    obtain ⟨x, y, rfl, rfl, rfl⟩ | ⟨o, ho⟩ := centre_of_two a b rest
    · rw [ha.eq_of_number, hb.eq_of_number, List.forall₂_nil_left_iff.1 hrest]
      exact .same _
    · obtain ⟨x, y, rfl, rfl, rfl⟩ | ⟨o', ho'⟩ := centre_of_two a' b' rest'
      · rw [ha.symm.eq_of_number, hb.symm.eq_of_number, List.forall₂_nil_right_iff.1 hrest]
        exact .same _
      · rw [ho, ho']
        exact .refused _ _ _ _

theorem circle_alike (h : List.Forall₂ Interchangeable items items') :
    Alike (circle [.list items]) (circle [.list items']) := by
  cases h with
  | nil => exact .same _
  | cons ha hrest =>
    refine ((refusesPlaces_asNumber "circle").alike ha).bind fun _ => ?_
    exact (centre_alike hrest).bind fun _ => .same _

/-- After the radius, the two numbers of a place are as good as any spelling of it. -/
theorem circle_of_spells {a : Argument} {p : LatLon} (ha : a.SpellsPlace p) (radius : Argument)
    (rest : List Argument) :
    circle (radius :: a :: rest) =
      circle (radius :: .number p.latitude :: .number p.longitude :: rest) := by
  have hcentre : centre (a :: rest) =
      centre (.number p.latitude :: .number p.longitude :: rest) := by
    cases rest with
    | nil => exact ha.asPlace_eq
    | cons extra rest => cases ha <;> simp [centre]
  simp only [circle, spliceSole, hcentre]

/-- The vertices of a polygon are read one by one. -/
theorem polygon_eq (h : List.Forall₂ Interchangeable items items') :
    polygon [.list items] = polygon [.list items'] := by
  have hvertices : items.mapM (asPlace "polygon") = items'.mapM (asPlace "polygon") := by
    induction h with
    | nil => rfl
    | cons ha _ ih => rw [List.mapM_cons, List.mapM_cons, ha.asPlace_eq, ih]
  simp only [polygon, spliceSole, hvertices]

theorem polygon_of_spells {ps : List LatLon} (h : List.Forall₂ SpellsPlace items ps)
    (hne : items ≠ []) : polygon [.list items] = .ok (.polygon ⟨ps⟩) := by
  have hvertices : items.mapM (asPlace "polygon") = .ok ps :=
    mapM_of_forall₂ (h.imp fun _ _ ha => ha.asPlace_eq)
  cases h with
  | nil => exact absurd rfl hne
  | cons =>
    simp only [polygon, spliceSole, hvertices]
    rfl

/-! ## Geospatial indexes -/

theorem leadingTwo_interchangeable {isName : Argument → Bool}
    (hname : ∀ a p, a.SpellsPlace p → isName a = false)
    (h : List.Forall₂ Interchangeable items items') :
    List.Forall₂ Interchangeable (leadingTwo isName items).1 (leadingTwo isName items').1 ∧
      List.Forall₂ Interchangeable (leadingTwo isName items).2 (leadingTwo isName items').2 := by
  have hsame : ∀ {a a'}, Interchangeable a a' → isName a = isName a' := by
    intro a a' h
    cases h with
    | same => rfl
    | places h h' => rw [hname _ _ h, hname _ _ h']
  match items, items', h with
  | [], [], _ => exact ⟨.nil, .nil⟩
  | [a], [a'], .cons ha .nil =>
    simp only [leadingTwo, hsame ha]
    split
    · exact ⟨.cons ha .nil, .nil⟩
    · exact ⟨.nil, .cons ha .nil⟩
  | a :: b :: rest, a' :: b' :: rest', .cons ha (.cons hb hrest) =>
    simp only [leadingTwo, hsame ha, hsame hb]
    split
    · split
      · exact ⟨.cons ha (.cons hb .nil), hrest⟩
      · exact ⟨.cons ha .nil, .cons hb hrest⟩
    · exact ⟨.nil, .cons ha (.cons hb hrest)⟩

theorem attributePairCount_eq (h : List.Forall₂ Interchangeable items items') :
    attributePairCount items = attributePairCount items' := by
  match items, items', h with
  | [], [], _ => rfl
  | a :: rest, a' :: rest', .cons ha _ =>
    cases ha with
    | same =>
      unfold attributePairCount
      split <;> split <;> simp_all
    | places ha ha' => cases ha <;> cases ha' <;> rfl

/-- Places that are spelled differently do not make a difference to which arguments are names. -/
theorem geoSplit_interchangeable (kind : GeoKind) (h : List.Forall₂ Interchangeable items items') :
    List.Forall₂ Interchangeable (geoSplit kind items).1 (geoSplit kind items').1 ∧
      List.Forall₂ Interchangeable (geoSplit kind items).2 (geoSplit kind items').2 := by
  have hcut : ∀ n, List.Forall₂ Interchangeable (items.take n) (items'.take n) ∧
      List.Forall₂ Interchangeable (items.drop n) (items'.drop n) := fun n =>
    ⟨List.forall₂_take n h, List.forall₂_drop n h⟩
  cases kind with
  | attributePair =>
    simp only [geoSplit, attributePairCount_eq h]
    exact hcut _
  | element => exact leadingTwo_interchangeable (fun _ _ ha => by cases ha <;> rfl) h
  | property => exact leadingTwo_interchangeable (fun _ _ ha => by cases ha <;> rfl) h
  | elementPair | propertyPair => exact hcut 3
  | path => exact hcut 1

/-- The names of a pair of attributes are alike; a place among them is refused. -/
theorem attributePairNames_alike (place : Nat) (spec : GeoSpec)
    (h : List.Forall₂ Interchangeable items items') :
    Alike ((attributePairNames place spec items).map Prod.fst)
      ((attributePairNames place spec items').map Prod.fst) := by
  -- the names alone, since the arguments after them are spelled differently
  induction h generalizing place spec with
  | nil => exact .same _
  | @cons a a' rest rest' ha _ ih =>
    by_cases hplace : 3 ≤ place
    · unfold attributePairNames
      simp only [hplace, if_true]
      exact .same _
    · cases ha with
      | same =>
        unfold attributePairNames
        simp only [hplace, if_false]
        split
        · split
          · exact ih _ _
          · exact ih _ _
        · cases a.asQName GeoKind.attributePair.combinator with
          | error e => exact .same _
          | ok name => exact ih _ _
      | places ha ha' =>
        have hplace := Nat.lt_of_not_le hplace
        rw [attributePairNames_cons hplace ha.ne_element,
          attributePairNames_cons hplace ha'.ne_element]
        obtain ⟨c, o, ho⟩ := refusesPlaces_asQName GeoKind.attributePair.combinator _ _ ha
        obtain ⟨c', o', ho'⟩ := refusesPlaces_asQName GeoKind.attributePair.combinator _ _ ha'
        rw [ho, ho']
        exact .refused _ _ _ _

theorem geoNames_alike (kind : GeoKind) (count : Nat)
    (h : List.Forall₂ Interchangeable items items') :
    Alike (geoNames kind count items) (geoNames kind count items') := by
  have helement := refusesPlaces_asElement kind.combinator
  have hproperty := refusesPlaces_asProperty kind.combinator
  -- lists of other lengths than the kind takes are refused without a look at what they hold
  cases kind with
  | attributePair =>
    simp only [geoNames]
    split
    · exact .same _
    · exact attributePairNames_alike 0 {} h
  | element =>
    obtain _ | ⟨ha, _ | ⟨hb, _ | ⟨_, _⟩⟩⟩ := h
    · exact .same _
    · exact (helement.alike ha).bind fun _ => .same _
    · exact (helement.alike ha).bind fun _ => (helement.alike hb).bind fun _ => .same _
    · exact .same _
  | elementPair =>
    obtain _ | ⟨ha, _ | ⟨hb, _ | ⟨hc, _ | ⟨_, _⟩⟩⟩⟩ := h
    · exact .same _
    · exact .same _
    · exact .same _
    · exact (helement.alike ha).bind fun _ => (helement.alike hb).bind fun _ =>
        (helement.alike hc).bind fun _ => .same _
    · exact .same _
  | property =>
    obtain _ | ⟨ha, _ | ⟨hb, _ | ⟨_, _⟩⟩⟩ := h
    · exact .same _
    · exact (hproperty.alike ha).bind fun _ => .same _
    · exact (hproperty.alike ha).bind fun _ => (hproperty.alike hb).bind fun _ => .same _
    · exact .same _
  | propertyPair =>
    obtain _ | ⟨ha, _ | ⟨hb, _ | ⟨hc, _ | ⟨_, _⟩⟩⟩⟩ := h
    · exact .same _
    · exact .same _
    · exact .same _
    · exact (hproperty.alike ha).bind fun _ => (hproperty.alike hb).bind fun _ =>
        (hproperty.alike hc).bind fun _ => .same _
    · exact .same _
  | path =>
    obtain _ | ⟨ha, _ | ⟨_, _⟩⟩ := h
    · exact .same _
    · cases ha with
      | same => exact .same _
      | places ha ha' => cases ha <;> cases ha' <;> exact .refused _ _ _ _
    · simp only [geoNames]
      exact .same _

theorem GeoParts.add_alike (combinator : String) (p : GeoParts) {a a' : Argument}
    (h : a.Interchangeable a') : Alike (p.add combinator a) (p.add combinator a') := by
  cases h with
  | same => exact .same _
  | places h h' =>
    rw [add_of_region _ _ h.region?_eq, add_of_region _ _ h'.region?_eq]
    split
    · exact .refused _ _ _ _
    · exact .same _

theorem geo_alike (kind : GeoKind) (names : GeoSpec)
    (h : List.Forall₂ Interchangeable items items') :
    Alike (geo kind names items) (geo kind names items') := by
  refine .bind (.foldlM ?_ h _) fun _ => .same _
  exact fun p _ _ => p.add_alike kind.combinator

theorem geoOf_alike (kind : GeoKind) (h : List.Forall₂ Interchangeable items items') :
    Alike (geoOf kind [.list items]) (geoOf kind [.list items']) := by
  obtain ⟨hnames, hrest⟩ := geoSplit_interchangeable kind h
  rw [geoOf_eq, geoOf_eq]
  simp only [spliceSole, h.length_eq]
  exact (geoNames_alike kind _ hnames).bind fun names => geo_alike kind names hrest

end Build

/-! ## The functions that take places -/

namespace ListFunction

/-- The functions that take places. -/
inductive TakesPlaces : ListFunction → Prop where
  /-- A single place. -/
  | point : TakesPlaces .point
  /-- A circle. -/
  | circle : TakesPlaces .circle
  /-- A polygon. -/
  | polygon : TakesPlaces .polygon
  /-- A geospatial index. -/
  | geo (kind : GeoKind) : TakesPlaces (.geo kind)

variable {f : ListFunction} {args args' : List Argument}

theorem call_list_alike (hf : f.TakesPlaces) (h : List.Forall₂ Interchangeable args args') :
    Build.Alike (f.call [.list args]) (f.call [.list args']) := by
  cases hf with
  | point => exact Build.point_alike h
  | circle => exact Build.circle_alike h
  | polygon => exact .of_eq (Build.polygon_eq h)
  | geo kind => exact Build.geoOf_alike kind h

/-- A place by itself is as good as a list of it, though its own list stands for its numbers. -/
theorem call_sole_alike (hf : f.TakesPlaces) (hpolygon : f ≠ polygon) {a : Argument} {p : LatLon}
    (ha : a.SpellsPlace p) : Build.Alike (f.call [a]) (f.call [.list [a]]) := by
  cases ha with
  | latLon | region => exact .of_eq (f.call_eq_of_spliceSole_eq rfl)
  | numbers =>
    cases hf with
    | point => exact .same _
    | circle => exact .refused _ _ _ _
    | polygon => exact absurd rfl hpolygon
    | geo kind =>
      cases kind with
      | path => exact .refused _ _ _ _
      | _ => exact .same _

theorem call_alike (hf : f.TakesPlaces) (h : List.Forall₂ Interchangeable args args')
    (hpolygon : f = polygon → args.length ≠ 1) : Build.Alike (f.call args) (f.call args') := by
  have hlist := call_list_alike hf h
  by_cases hone : args.length = 1
  · obtain ⟨a, rfl⟩ := List.length_eq_one_iff.1 hone
    obtain ⟨a', rfl⟩ := List.length_eq_one_iff.1 (h.length_eq.symm.trans hone)
    cases h with
    | cons ha _ =>
      cases ha with
      | same => exact .same _
      | places ha ha' =>
        have hpolygon : f ≠ polygon := fun hf => hpolygon hf rfl
        exact ((call_sole_alike hf hpolygon ha).trans hlist).trans
          (call_sole_alike hf hpolygon ha').symm
  · rwa [f.call_list_eq hone, f.call_list_eq (h.length_eq ▸ hone)] at hlist

/-- A function that takes places takes every spelling of them alike, wherever they are among its
arguments, and whether or not these come in a list of their own.  Only the list of numbers of a sole
vertex would be taken for a list of vertices.  A place, a circle and a polygon have the places that
were spelled, of which the two numbers may also be two arguments in a place and in a circle. -/
theorem places_interchangeable :
    (∀ (f : ListFunction) (args args' : List Argument), f.TakesPlaces →
      List.Forall₂ Interchangeable args args' →
      ((f = polygon → args.length ≠ 1) → Build.Alike (f.call args) (f.call args')) ∧
        Build.Alike (f.call [.list args]) (f.call [.list args'])) ∧
    (∀ (a : Argument) (p : LatLon), a.SpellsPlace p →
      point.call [a] = .ok (.point p) ∧
      point.call [.number p.latitude, .number p.longitude] = .ok (.point p) ∧
      (∀ r, circle.call [.number r, a] = .ok (.circle ⟨r, [p]⟩)) ∧
      ∀ radius rest, circle.call (radius :: a :: rest) =
        circle.call (radius :: .number p.latitude :: .number p.longitude :: rest)) ∧
    ∀ (args : List Argument) (ps : List LatLon), List.Forall₂ SpellsPlace args ps →
      (2 ≤ args.length → polygon.call args = .ok (.polygon ⟨ps⟩)) ∧
      (args ≠ [] → polygon.call [.list args] = .ok (.polygon ⟨ps⟩)) := by
  refine ⟨fun f args args' hf h => ⟨call_alike hf h, call_list_alike hf h⟩,
    fun a p ha => ⟨?_, rfl, fun r => ?_, Build.circle_of_spells ha⟩,
    fun args ps h => ⟨fun htwo => ?_, Build.polygon_of_spells h⟩⟩
  · cases ha <;> rfl
  · cases ha <;> rfl
  · rw [← polygon.call_list_eq (by omega)]
    exact Build.polygon_of_spells h (List.ne_nil_of_length_pos (by omega))

/-- Three vertices, each spelled in its own way, and the second of them after an element. -/
theorem places_interchangeable_three_vertices :
    let place (x y : Int) : LatLon := ⟨.ofInt x, .ofInt y⟩
    let vertices : List LatLon := [place 1 2, place 3 4, place 5 6]
    let second : Argument := .list [.number (.ofInt 3), .number (.ofInt 4)]
    let args : List Argument := [.latLon (place 1 2), second, .region (.point (place 5 6))]
    let args' : List Argument := [.region (.point (place 1 2)), .latLon (place 3 4),
      .latLon (place 5 6)]
    let loc : List Argument := [.text "loc", second]
    let loc' : List Argument := [.text "loc", .latLon (place 3 4)]
    (TakesPlaces polygon ∧ List.Forall₂ Interchangeable args args' ∧
        List.Forall₂ SpellsPlace args vertices ∧ second.SpellsPlace (place 3 4) ∧
        TakesPlaces (geo .element) ∧ List.Forall₂ Interchangeable loc loc') ∧
      polygon.call args = .ok (.polygon ⟨vertices⟩) ∧
      polygon.call [.list args] = .ok (.polygon ⟨vertices⟩) ∧
      Build.Alike (polygon.call args) (polygon.call args') ∧
      point.call [second] = .ok (.point (place 3 4)) ∧
      (geo .element).call loc = .ok (.criteria (.geo .element
        { element := some (.plain "loc"), point := some [place 3 4] })) ∧
      Build.Alike ((geo .element).call loc) ((geo .element).call loc') := by
  intro place vertices second args args' loc loc'
  have hsecond : second.SpellsPlace (place 3 4) := .numbers (place 3 4)
  have hargs : List.Forall₂ Interchangeable args args' :=
    .cons (.places (.latLon _) (.region _)) (.cons (.places hsecond (.latLon _))
      (.cons (.places (.region _) (.latLon _)) .nil))
  have hvertices : List.Forall₂ SpellsPlace args vertices :=
    .cons (.latLon _) (.cons hsecond (.cons (.region _) .nil))
  have hloc : List.Forall₂ Interchangeable loc loc' :=
    .cons (.same _) (.cons (.places hsecond (.latLon _)) .nil)
  obtain ⟨halike, hspelled, hpolygon⟩ := places_interchangeable
  obtain ⟨hseparate, hlist⟩ := hpolygon args vertices hvertices
  obtain ⟨hmixed, -⟩ := halike polygon args args' .polygon hargs
  obtain ⟨htail, -⟩ := halike (geo .element) loc loc' (.geo .element) hloc
  exact ⟨⟨.polygon, hargs, hvertices, hsecond, .geo .element, hloc⟩, hseparate (by decide),
    hlist (by simp [args]), hmixed (by simp [args]), (hspelled second _ hsecond).1, rfl,
    htail (by simp)⟩

end ListFunction

end SearchRequest
