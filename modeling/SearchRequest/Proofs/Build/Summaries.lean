import SearchRequest.Proofs.Build.Places
import SearchRequest.Proofs.Build.Ranges

/-!
# What a function of an index is given

A function that takes an index is given something to look for, a name, a mark for the default of a
search text, or nothing.

* `IndexFunction` — the functions that take an index.
* `IndexFunction.given` — what a function is given to look for.
* `Query.body?`, `IndexFunction.Holds` — what a query says of an index, and what it looks for.
* `Summary`, `Summary.result` — criteria, name and default, and what is made of them.
* `Summary.Tells` — a summary says what the arguments say.
* `IndexFunction.exists_summary` — arguments that fit have a summary, of which the result is made.
-/

namespace SearchRequest

open Argument

/-- The regions of a body. -/
def GeoSpec.regions (g : GeoSpec) : List Region :=
  (g.point.getD []).map .point ++ g.bounds.toList.map .box ++ g.circle.toList.map .circle ++
    g.polygon.toList.map .polygon

theorem GeoSpec.regions_withRegion {g : GeoSpec} (h : g.Bare) (r : Option Region) :
    (g.withRegion r).regions = r.toList := by
  cases r with
  | none => simp [withRegion, regions, h.point, h.bounds, h.circle, h.polygon]
  | some r =>
    cases r <;> simp [withRegion, setRegion, regions, h.point, h.bounds, h.circle, h.polygon]

theorem GeoSpec.hasRegion_withRegion {g : GeoSpec} (h : g.Bare) (r : Option Region) :
    (g.withRegion r).hasRegion = r.isSome := by
  cases r with
  | none => simp [withRegion, hasRegion, h.point, h.bounds, h.circle, h.polygon]
  | some r => exact hasRegion_setRegion g r

/-! ## Functions that take an index -/

/-- The functions that take an index, and criteria or a binding after it. -/
inductive IndexFunction where
  /-- Values that compare as told. -/
  | range
  /-- Words or values. -/
  | text (kind : TextKind)
  /-- A property or element. -/
  | scope
  /-- Places. -/
  | geo (kind : GeoKind)

/-- Something that a function is given to look for. -/
inductive Criterion where
  /-- A value. -/
  | value (v : Scalar)
  /-- Criteria to be met inside a property or element. -/
  | inner (c : Criteria)
  /-- A region. -/
  | region (r : Region)

/-- What a query says of an index. -/
inductive Body where
  /-- The values of an index. -/
  | range (spec : RangeSpec)
  /-- The words or values of an index. -/
  | text (kind : TextKind) (spec : TextSpec)
  /-- A property or element, with the criteria inside it. -/
  | container (spec : ContainerSpec) (inner : Option Criteria)
  /-- The places of a geospatial index. -/
  | geo (kind : GeoKind) (spec : GeoSpec)

/-- The function that makes a body. -/
def Body.function : Body → IndexFunction
  | .range _ => .range
  | .text kind _ => .text kind
  | .container _ _ => .scope
  | .geo kind _ => .geo kind

/-- What a body looks for. -/
def Body.criteria : Body → List Criterion
  | .range spec => (spec.value.getD []).map .value
  | .text _ spec => (spec.text.getD []).map .value
  | .container _ inner => inner.toList.map .inner
  | .geo _ spec => spec.regions.map .region

/-- What a query says of an index, if it is criteria, a constraint, a default or a declaration that
such a function can make. -/
def Query.body? : Query → Option Body
  | .criteria (.range spec) => some (.range spec)
  | .criteria (.text kind spec) => some (.text kind spec)
  | .criteria (.container spec inner) => some (.container spec (some inner))
  | .criteria (.geo kind spec) => some (.geo kind spec)
  | .constraint ⟨_, .range spec⟩ => some (.range spec)
  | .constraint ⟨_, .text kind spec⟩ => some (.text kind spec)
  | .constraint ⟨_, .container spec⟩ => some (.container spec none)
  | .constraint ⟨_, .geo kind spec⟩ => some (.geo kind spec)
  | .default (.range spec) => some (.range spec)
  | .default (.text kind spec) => some (.text kind spec)
  | .index (.geo kind spec) => some (.geo kind spec)
  | _ => none

/-- The forms of a query. -/
inductive QueryForm where
  /-- Criteria. -/
  | criteria
  /-- A constraint with its name. -/
  | constraint (name : String)
  /-- A default. -/
  | default
  /-- The declaration of an index. -/
  | index
  deriving DecidableEq, Repr

/-- The form of a query. -/
def Query.form : Query → QueryForm
  | .criteria _ => .criteria
  | .constraint c => .constraint c.name
  | .default _ => .default
  | .index _ => .index

namespace IndexFunction

/-- What a function makes of arguments. -/
def call : IndexFunction → List Argument → Build Query
  | range => Build.range
  | text kind => Build.text kind
  | scope => Build.scope
  | geo kind => Build.geoOf kind

/-- The name of a function in what it says of errors. -/
def name : IndexFunction → String
  | range => "range"
  | text kind => kind.name
  | scope => "scope"
  | geo kind => kind.combinator

/-- The arguments that name the index, and those after them. -/
def split : IndexFunction → List Argument → List Argument × List Argument
  | geo kind, args => Build.geoSplit kind (spliceSole args)
  | _, args => ((spliceSole args).take 1, (spliceSole args).drop 1)

/-- All arguments fit: they are not too few or too many, and none is out of place. -/
def Fits (f : IndexFunction) (args : List Argument) : Prop :=
  ∀ e, f.call args = .error e → ¬e.Misfit

/-- What the arguments after the names give to look for. -/
def given : IndexFunction → List Argument → List Criterion
  | range, rest => (rangeValues rest).map .value
  | text _, rest => (rest.flatMap literals).map .value
  | scope, rest => (rest.filterMap criteria?).map .inner
  | geo _, rest => (rest.filterMap region?).map .region

/-- A query is of the kind that a function makes, and looks for just so much. -/
def Holds (f : IndexFunction) (q : Query) (cs : List Criterion) : Prop :=
  ∃ b, q.body? = some b ∧ b.function = f ∧ b.criteria = cs

end IndexFunction

/-! ## Criteria, name and default -/

/-- What the arguments of a function come down to. -/
structure Summary where
  /-- The criteria. -/
  criteria : Option Criteria
  /-- The name. -/
  name : Option String
  /-- The default. -/
  default : Option DefaultSpec
  /-- What a constraint constrains. -/
  spec : ConstraintSpec
  /-- What is made of nothing. -/
  otherwise : Build Query

namespace Summary

/-- What is made of a summary: a query if no more than one of criteria, name and default is
there. -/
def result (s : Summary) (combinator : String) : Build Query :=
  match s.criteria, s.name, s.default with
  | some c, none, none => .ok (.criteria c)
  | none, some n, none => .ok (.constraint ⟨n, s.spec⟩)
  | none, none, some spec => .ok (.default spec)
  | none, none, none => s.otherwise
  | _, _, _ => .error (.conflictingBinding combinator)

/-- A summary says what the arguments of a function say. -/
structure Tells (s : Summary) (f : IndexFunction) (start rest : List Argument) : Prop where
  /-- Without anything to look for there are no criteria. -/
  criteria_none : f.given rest = [] → s.criteria = none
  /-- The criteria look for all that is given. -/
  criteria_some : f.given rest ≠ [] →
    ∃ c, s.criteria = some c ∧ f.Holds (.criteria c) (f.given rest)
  /-- The name is the one that is bound. -/
  name_iff : ∀ n, s.name = some n ↔ .bind n ∈ rest
  /-- Without a mark there is no default. -/
  default_none : .bindDefault ∉ rest → s.default = none
  /-- A default looks for nothing. -/
  default_some : .bindDefault ∈ rest → ∃ spec, s.default = some spec ∧ f.Holds (.default spec) []
  /-- A constraint looks for nothing. -/
  constraint : f.given rest = [] → ∀ n, f.Holds (.constraint ⟨n, s.spec⟩) []
  /-- Nothing at all declares a geospatial index. -/
  declares : f.given rest = [] → ∀ kind, f = .geo kind →
    ∃ spec, s.otherwise = .ok (.index (.geo kind spec)) ∧ f.Holds (.index (.geo kind spec)) []
  /-- Nothing at all binds any other index to its own name. -/
  binds : (∀ kind, f ≠ .geo kind) → ∃ first index, start = [first] ∧
    first.asIndex f.name = .ok index ∧
    s.otherwise = do
      let n ← index.requireName
      .ok (.constraint ⟨n, s.spec⟩)

/-- The summary of words or values. -/
def ofText (kind : TextKind) (index : IndexedName) (p : Build.TextParts) : Summary where
  criteria := if p.text.isEmpty then none
    else some (.text kind { p.spec index with text := some p.text })
  name := p.name
  default := if p.isDefault then some (.text kind (p.spec index)) else none
  spec := .text kind (p.spec index)
  otherwise := do
    let n ← index.requireName
    .ok (.constraint ⟨n, .text kind (p.spec index)⟩)

/-- The summary of a range. -/
def ofRange (index : IndexedName) (p : Build.RangeParts) : Summary where
  criteria := p.criteria? index
  name := p.name
  default := if p.isDefault then some (.range (p.spec index)) else none
  spec := .range (p.spec index)
  otherwise := do
    let n ← index.requireName
    .ok (.constraint ⟨n, .range (p.spec index)⟩)

/-- The summary of a property or element. -/
def ofScope (index : IndexedName) (p : Build.ScopeParts) : Summary where
  criteria := p.criteria.map (.container ⟨IndexFields.container index, p.fragmentScope⟩)
  name := p.name
  default := none
  spec := .container ⟨IndexFields.container index, p.fragmentScope⟩
  otherwise := do
    let n ← index.requireName
    .ok (.constraint ⟨n, .container ⟨IndexFields.container index, p.fragmentScope⟩⟩)

/-- The summary of a geospatial index. -/
def ofGeo (kind : GeoKind) (p : Build.GeoParts) : Summary where
  criteria := if p.spec.hasRegion then some (.geo kind p.spec) else none
  name := p.name
  default := none
  spec := .geo kind p.spec
  otherwise := .ok (.index (.geo kind p.spec))

variable {s : Summary} {f : IndexFunction} {start rest : List Argument} {combinator : String}

theorem Tells.name_none (h : s.Tells f start rest) (hname : ∀ n, .bind n ∉ rest) :
    s.name = none :=
  Option.eq_none_iff_forall_ne_some.2 fun n hn => hname n ((h.name_iff n).1 hn)

theorem Tells.result_otherwise (h : s.Tells f start rest) (hgiven : f.given rest = [])
    (hname : ∀ n, .bind n ∉ rest) (hmark : .bindDefault ∉ rest) :
    s.result combinator = s.otherwise := by
  rw [result, h.criteria_none hgiven, h.name_none hname, h.default_none hmark]

end Summary

/-! ## What the slots say -/

section Slots

variable {slot : Argument → Option Slot} {rest : List Argument}

/-- What is in a slot with room for one is all of its kind. -/
theorem filterMap_eq_toList {B : Type} {g : Argument → Option B} {k : Slot} (hk : k.once)
    (hslot : Takes slot k g) (hroomy : Scan.Roomy slot rest) :
    rest.filterMap g = ((sheetOf slot rest k).findSome? g).toList := by
  have hlength := hroomy k hk
  rw [← hslot.filterMap_sheetOf]
  cases hsheet : sheetOf slot rest k with
  | nil => rfl
  | cons a others =>
    have hothers : others = [] := List.length_eq_zero_iff.1 (by
      rw [hsheet, List.length_cons] at hlength
      omega)
    rw [hothers, List.filterMap_cons, List.findSome?_cons]
    cases g a <;> rfl

theorem findSome?_boundName?_iff (hslot : Takes slot .name boundName?)
    (hroomy : Scan.Roomy slot rest) (n : String) :
    (sheetOf slot rest .name).findSome? boundName? = some n ↔ .bind n ∈ rest := by
  rw [← Option.mem_toList, ← filterMap_eq_toList rfl hslot hroomy, List.mem_filterMap]
  constructor
  · rintro ⟨a, ha, hn⟩
    cases a with
    | bind m => exact Option.some.inj hn ▸ ha
    | _ => cases hn
  · exact fun h => ⟨_, h, rfl⟩

theorem sheetOf_default_isEmpty (rest : List Argument)
    (hslot : ∀ a, slot a = some .default ↔ a = .bindDefault) :
    (!(sheetOf slot rest .default).isEmpty) = true ↔ .bindDefault ∈ rest := by
  rw [Bool.not_eq_true', List.isEmpty_eq_false_iff_exists_mem]
  constructor
  · rintro ⟨a, ha⟩
    obtain ⟨hmem, hdefault⟩ := List.mem_filter.1 ha
    exact (hslot a).1 (of_decide_eq_true hdefault) ▸ hmem
  · exact fun h => ⟨_, List.mem_filter.2 ⟨h, decide_eq_true ((hslot _).2 rfl)⟩⟩

end Slots

namespace IndexFunction

/-- A function that reads the name of an index and scans what follows it. -/
def indexed {P : Type} (s : Scan P) (missing : String) (finish : IndexedName → P → Build Query)
    (args : List Argument) : Build Query :=
  match spliceSole args with
  | [] => .error (.arity s.combinator missing)
  | first :: rest => do
    let index ← first.asIndex s.combinator
    let p ← rest.foldlM s.add s.start
    finish index p

/-- Where all arguments fit, the first is the name of an index and the scan refuses none of the
others. -/
theorem indexed_of_fits {P : Type} {s : Scan P} (hs : s.Guarded) {missing : String}
    {finish : IndexedName → P → Build Query} {args start rest : List Argument}
    (hsplit : ((spliceSole args).take 1, (spliceSole args).drop 1) = (start, rest))
    (h : ∀ e, indexed s missing finish args = .error e → ¬e.Misfit) :
    ∃ first index p, start = [first] ∧ first.asIndex s.combinator = .ok index ∧
      rest.foldlM s.add s.start = .ok p ∧ indexed s missing finish args = finish index p := by
  unfold indexed at h ⊢
  cases hargs : spliceSole args with
  | nil =>
    rw [hargs] at h
    exact absurd (Or.inl rfl) (h _ rfl)
  | cons first rest =>
    rw [hargs] at hsplit
    cases hsplit
    simp only [hargs] at h ⊢
    obtain ⟨index, -, hindex, hscan⟩ := (Build.asIndex_settles _ first).exists_ok h
    rw [hscan] at h ⊢
    obtain ⟨p, -, hfold, hfinish⟩ := (hs.settles rest).exists_ok h
    exact ⟨first, index, p, rfl, hindex, hfold, hfinish⟩

theorem criteriaOrBinding_eq (combinator : String) (index : IndexedName)
    (criteria : Option Criteria) (name : Option String) (default : Option DefaultSpec)
    (spec : ConstraintSpec) :
    Build.criteriaOrBinding combinator index criteria name default spec =
      Summary.result ⟨criteria, name, default, spec, do
        let n ← index.requireName
        .ok (.constraint ⟨n, spec⟩)⟩ combinator := by
  cases criteria <;> cases name <;> cases default <;> rfl

theorem range_eq (args : List Argument) :
    Build.range args = indexed Build.rangeScan "missing index"
      (fun index p => (Summary.ofRange index p).result "range") args := by
  simp only [Build.range, criteriaOrBinding_eq]
  rfl

theorem text_eq (kind : TextKind) (args : List Argument) :
    Build.text kind args = indexed (Build.textScan kind) "missing index"
      (fun index p => (Summary.ofText kind index p).result kind.name) args := by
  simp only [Build.text, criteriaOrBinding_eq]
  rfl

theorem scope_eq (args : List Argument) :
    Build.scope args = indexed Build.scopeScan "missing container"
      (fun index p => (Summary.ofScope index p).result "scope") args := by
  simp only [Build.scope, criteriaOrBinding_eq]
  rfl

theorem finish_eq (kind : GeoKind) (p : Build.GeoParts) :
    p.finish kind = (Summary.ofGeo kind p).result kind.combinator := by
  unfold Build.GeoParts.finish Summary.ofGeo Summary.result
  cases p.name <;> cases p.spec.hasRegion <;> rfl

/-! ## What the summaries tell -/

section Tells

variable {first : Argument} {rest : List Argument} {index : IndexedName}

theorem textScan_name (kind : TextKind) : Takes (Build.textScan kind).slot .name boundName? :=
  takes_of_decide fun a => by cases a <;> first | rfl | simp [Build.textScan, boundName?]

theorem textScan_default_iff (kind : TextKind) (a : Argument) :
    (Build.textScan kind).slot a = some .default ↔ a = .bindDefault := by
  cases a with
  | bindDefault => exact iff_of_true rfl rfl
  | list items => simp [Build.textScan]
  | _ => exact iff_of_false (by rintro ⟨⟩) (by rintro ⟨⟩)

theorem literals_of_textScan {kind : TextKind} {a : Argument} {k : Slot}
    (h : (Build.textScan kind).slot a = some k) (hk : k ≠ .texts) : a.literals = [] := by
  cases a with
  | list items =>
    have htexts : (∀ a ∈ items, a.scalar?.isSome) ∧ .texts = k := by
      simpa [Build.textScan, isLiteral] using h
    exact absurd htexts.2.symm hk
  | null | text _ | number _ | bool _ | instant _ =>
    cases h
    exact absurd rfl hk
  | _ => rfl

/-- A summary of values, with a mark for the default. -/
theorem tells_of_values {s : Summary} {f : IndexFunction} {values : List Scalar} {c : Criteria}
    {spec : DefaultSpec} {isDefault : Bool} (hgiven : f.given rest = values.map .value)
    (hcriteria : s.criteria = if values.isEmpty then none else some c)
    (hc : f.Holds (.criteria c) (values.map .value))
    (hname : ∀ n, s.name = some n ↔ .bind n ∈ rest)
    (hdefault : s.default = if isDefault then some spec else none)
    (hmark : isDefault = true ↔ .bindDefault ∈ rest) (hspec : f.Holds (.default spec) [])
    (hconstraint : ∀ n, f.Holds (.constraint ⟨n, s.spec⟩) []) (hf : ∀ kind, f ≠ .geo kind)
    (hfirst : first.asIndex f.name = .ok index)
    (hotherwise : s.otherwise = do
      let n ← index.requireName
      .ok (.constraint ⟨n, s.spec⟩)) :
    s.Tells f [first] rest where
  criteria_none h := by
    rw [hgiven, List.map_eq_nil_iff] at h
    rw [hcriteria, h]
    rfl
  criteria_some h := by
    rw [hgiven] at h ⊢
    refine ⟨c, ?_, hc⟩
    rw [hcriteria, if_neg]
    exact fun hempty => h (by rw [List.isEmpty_iff.1 hempty]; rfl)
  name_iff := hname
  default_none h := by rw [hdefault, if_neg fun hd => h (hmark.1 hd)]
  default_some h := ⟨spec, by rw [hdefault, if_pos (hmark.2 h)], hspec⟩
  constraint _ := hconstraint
  declares _ kind h := absurd h (hf kind)
  binds _ := ⟨first, index, rfl, hfirst, hotherwise⟩

theorem tells_text {kind : TextKind} {p : Build.TextParts}
    (hfirst : first.asIndex kind.name = .ok index)
    (hfold : rest.foldlM (Build.TextParts.add kind) {} = .ok p) :
    (Summary.ofText kind index p).Tells (.text kind) [first] rest := by
  obtain ⟨hfiled, hroomy, rfl⟩ := (Build.textScan_strict kind).guarded.eq_read hfold
  have htext : ((Build.textScan kind).read (sheetOf (Build.textScan kind).slot rest)).text =
      rest.flatMap literals := flatMap_sheetOf (fun _ _ => literals_of_textScan) hfiled
  refine tells_of_values ?_ rfl ⟨_, rfl, rfl, rfl⟩
    (findSome?_boundName?_iff (textScan_name kind) hroomy) rfl
    (sheetOf_default_isEmpty rest (textScan_default_iff kind)) ⟨_, rfl, rfl, rfl⟩
    (fun _ => ⟨_, rfl, rfl, rfl⟩) nofun hfirst rfl
  rw [given, ← htext]

theorem rangeScan_name : Takes Build.rangeScan.slot .name boundName? :=
  takes_of_decide fun a => by cases a <;> first | rfl | simp [Build.rangeScan, boundName?]

theorem rangeScan_default_iff (a : Argument) :
    Build.rangeScan.slot a = some .default ↔ a = .bindDefault := by
  cases a with
  | bindDefault => exact iff_of_true rfl rfl
  | list items => simp [Build.rangeScan]
  | _ => exact iff_of_false (by rintro ⟨⟩) (by rintro ⟨⟩)

theorem tells_range {p : Build.RangeParts} (hfirst : first.asIndex "range" = .ok index)
    (hfold : rest.foldlM Build.RangeParts.add {} = .ok p) :
    (Summary.ofRange index p).Tells .range [first] rest := by
  obtain ⟨hroomy, rfl⟩ := Build.eq_of_foldlM hfold
  exact tells_of_values rfl rfl ⟨_, rfl, rfl, rfl⟩
    (findSome?_boundName?_iff rangeScan_name hroomy) rfl
    (sheetOf_default_isEmpty rest rangeScan_default_iff) ⟨_, rfl, rfl, rfl⟩
    (fun _ => ⟨_, rfl, rfl, rfl⟩) nofun hfirst rfl

theorem scopeScan_name : Takes Build.scopeScan.slot .name boundName? :=
  takes_of_decide fun a => by
    cases a with
    | query q => cases q <;> rfl
    | _ => rfl

theorem scopeScan_criteria : Takes Build.scopeScan.slot .criteria criteria? :=
  takes_of_decide fun a => by
    cases a with
    | query q => cases q <;> rfl
    | _ => rfl

theorem tells_scope {p : Build.ScopeParts} (hfirst : first.asIndex "scope" = .ok index)
    (hfold : rest.foldlM Build.ScopeParts.add {} = .ok p) :
    (Summary.ofScope index p).Tells .scope [first] rest := by
  obtain ⟨hfiled, hroomy, hp⟩ := Build.scopeScan_strict.guarded.eq_read hfold
  have hgiven : scope.given rest = p.criteria.toList.map .inner := by
    rw [given, filterMap_eq_toList rfl scopeScan_criteria hroomy, hp]
    rfl
  have hname : ∀ n, p.name = some n ↔ .bind n ∈ rest := by
    rw [hp]
    exact findSome?_boundName?_iff scopeScan_name hroomy
  refine
    { criteria_none := fun h => ?_
      criteria_some := fun h => ?_
      name_iff := hname
      default_none := fun _ => rfl
      default_some := fun h => ?_
      constraint := fun _ _ => ⟨_, rfl, rfl, rfl⟩
      declares := fun _ _ h => nomatch h
      binds := fun _ => ⟨first, index, rfl, hfirst, rfl⟩ }
  · cases hcriteria : p.criteria with
    | none => simp [Summary.ofScope, hcriteria]
    | some c => simp [hgiven, hcriteria] at h
  · cases hcriteria : p.criteria with
    | none => simp [hgiven, hcriteria] at h
    | some c =>
      rw [hgiven, hcriteria]
      exact ⟨.container ⟨IndexFields.container index, p.fragmentScope⟩ c,
        by simp [Summary.ofScope, hcriteria], ⟨_, rfl, rfl, rfl⟩⟩
  · -- a mark for the default has no slot here
    obtain ⟨k, hk⟩ := hfiled _ h
    cases hk

theorem geoScan_name (kind : GeoKind) (names : GeoSpec) :
    Takes (Build.geoScan kind names).slot .name boundName? :=
  takes_of_decide fun a => by cases a <;> first | rfl | simp [Build.geoScan, boundName?]

theorem geoScan_region (kind : GeoKind) (names : GeoSpec) :
    Takes (Build.geoScan kind names).slot .region region? :=
  takes_of_decide fun a => by
    cases a with
    | list items =>
      have hslot : (Build.geoScan kind names).slot (.list items) =
        if (region? (.list items)).isSome then some .region else none := rfl
      rw [hslot]
      cases region? (.list items) <;> rfl
    | _ => rfl

theorem tells_geo {kind : GeoKind} {names : GeoSpec} {p : Build.GeoParts} {start : List Argument}
    (hnames : names.Bare)
    (hfold : rest.foldlM (Build.GeoParts.add kind.combinator) { spec := names } = .ok p) :
    (Summary.ofGeo kind p).Tells (.geo kind) start rest := by
  obtain ⟨hfiled, hroomy, hp⟩ := (Build.geoScan_strict kind hnames).guarded.eq_read hfold
  have hregion := filterMap_eq_toList rfl (geoScan_region kind names) hroomy
  generalize hr : (sheetOf (Build.geoScan kind names).slot rest .region).findSome? region? = r
    at hregion
  have hregions : p.spec.regions = r.toList := by
    rw [hp, ← GeoSpec.regions_withRegion hnames r, ← hr]
    rfl
  have hhas : p.spec.hasRegion = r.isSome := by
    rw [hp, ← GeoSpec.hasRegion_withRegion hnames r, ← hr]
    rfl
  have hgiven : (geo kind).given rest = p.spec.regions.map .region := by
    rw [given, hregion, hregions]
  have hname : ∀ n, p.name = some n ↔ .bind n ∈ rest := by
    rw [hp]
    exact findSome?_boundName?_iff (geoScan_name kind names) hroomy
  refine
    { criteria_none := fun h => ?_
      criteria_some := fun h => ?_
      name_iff := hname
      default_none := fun _ => rfl
      default_some := fun h => ?_
      constraint := fun h _ => ⟨.geo kind p.spec, rfl, rfl, hgiven.symm.trans h⟩
      declares := fun h kind' hkind => ?_
      binds := fun h => absurd rfl (h kind) }
  · cases r with
    | none => simp [Summary.ofGeo, hhas]
    | some r => simp [hgiven, hregions] at h
  · cases r with
    | none => simp [hgiven, hregions] at h
    | some r =>
      exact ⟨.geo kind p.spec, by simp [Summary.ofGeo, hhas],
        ⟨.geo kind p.spec, rfl, rfl, hgiven.symm⟩⟩
  · obtain ⟨k, hk⟩ := hfiled _ h
    cases hk
  · cases hkind
    exact ⟨p.spec, rfl, ⟨.geo kind p.spec, rfl, rfl, hgiven.symm.trans h⟩⟩

end Tells

/-! ## What a function makes of arguments that fit -/

theorem geo_call_eq {kind : GeoKind} {args start rest : List Argument}
    (hsplit : (geo kind).split args = (start, rest)) :
    (geo kind).call args = (Build.geoNames kind (spliceSole args).length start >>= fun names =>
      rest.foldlM (Build.GeoParts.add kind.combinator) { spec := names } >>= fun p =>
        (Summary.ofGeo kind p).result kind.combinator) := by
  have heq := Build.geoOf_eq kind args
  rw [show Build.geoSplit kind (spliceSole args) = (start, rest) from hsplit] at heq
  simp only [← finish_eq]
  exact heq

theorem geo_of_fits {kind : GeoKind} {args start rest : List Argument}
    (hsplit : (geo kind).split args = (start, rest)) (h : (geo kind).Fits args) :
    ∃ names p, Build.geoNames kind (spliceSole args).length start = .ok names ∧ names.Bare ∧
      rest.foldlM (Build.GeoParts.add kind.combinator) { spec := names } = .ok p ∧
      (geo kind).call args = (Summary.ofGeo kind p).result kind.combinator := by
  have hcall := geo_call_eq hsplit
  rw [Fits, hcall] at h
  obtain ⟨names, hbare, hnames, hscan⟩ := (Build.geoNames_settles kind _ start).exists_ok h
  rw [hscan] at h
  have hsettles := (Build.geoScan_strict kind hbare).guarded.settles rest
  obtain ⟨p, -, hfold, hfinish⟩ := hsettles.exists_ok h
  exact ⟨names, p, hnames, hbare, hfold, hcall.trans (hscan.trans hfinish)⟩

theorem range_of_fits {args start rest : List Argument} (hsplit : range.split args = (start, rest))
    (h : range.Fits args) :
    ∃ first index p, start = [first] ∧ first.asIndex "range" = .ok index ∧
      rest.foldlM Build.RangeParts.add {} = .ok p ∧
      range.call args = (Summary.ofRange index p).result "range" := by
  rw [Fits, call, range_eq] at h
  rw [call, range_eq]
  exact indexed_of_fits Build.rangeScan_guarded hsplit h

theorem text_of_fits {kind : TextKind} {args start rest : List Argument}
    (hsplit : (text kind).split args = (start, rest)) (h : (text kind).Fits args) :
    ∃ first index p, start = [first] ∧ first.asIndex kind.name = .ok index ∧
      rest.foldlM (Build.TextParts.add kind) {} = .ok p ∧
      (text kind).call args = (Summary.ofText kind index p).result kind.name := by
  rw [Fits, call, text_eq] at h
  rw [call, text_eq]
  exact indexed_of_fits (Build.textScan_strict kind).guarded hsplit h

theorem scope_of_fits {args start rest : List Argument} (hsplit : scope.split args = (start, rest))
    (h : scope.Fits args) :
    ∃ first index p, start = [first] ∧ first.asIndex "scope" = .ok index ∧
      rest.foldlM Build.ScopeParts.add {} = .ok p ∧
      scope.call args = (Summary.ofScope index p).result "scope" := by
  rw [Fits, call, scope_eq] at h
  rw [call, scope_eq]
  exact indexed_of_fits Build.scopeScan_strict.guarded hsplit h

/-- Arguments that fit have a summary, of which the function makes its result. -/
theorem exists_summary (f : IndexFunction) {args start rest : List Argument}
    (hsplit : f.split args = (start, rest)) (h : f.Fits args) :
    ∃ s : Summary, f.call args = s.result f.name ∧ s.Tells f start rest := by
  cases f with
  | range =>
    obtain ⟨first, index, p, rfl, hindex, hfold, hcall⟩ := range_of_fits hsplit h
    exact ⟨.ofRange index p, hcall, tells_range hindex hfold⟩
  | text kind =>
    obtain ⟨first, index, p, rfl, hindex, hfold, hcall⟩ := text_of_fits hsplit h
    exact ⟨.ofText kind index p, hcall, tells_text hindex hfold⟩
  | scope =>
    obtain ⟨first, index, p, rfl, hindex, hfold, hcall⟩ := scope_of_fits hsplit h
    exact ⟨.ofScope index p, hcall, tells_scope hindex hfold⟩
  | geo kind =>
    obtain ⟨names, p, -, hbare, hfold, hcall⟩ := geo_of_fits hsplit h
    exact ⟨.ofGeo kind p, hcall, tells_geo hbare hfold⟩

end IndexFunction

end SearchRequest
