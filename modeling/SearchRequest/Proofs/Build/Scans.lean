import SearchRequest.Build.Clauses
import SearchRequest.Build.Documents
import SearchRequest.Build.Places
import SearchRequest.Build.SearchTexts
import SearchRequest.Build.Times
import SearchRequest.Build.Values
import SearchRequest.Proofs.Build.Slots

/-!
# The scans of the building functions

* `Argument.literals`, `Argument.region?` and others — what an argument contributes to a slot.
* `Build.andScan`, `Build.nearScan`, `Build.directoryScan`, `Build.termScan`, `Build.textScan`,
  `Build.lsqtScan`, `Build.scopeScan`, `Build.collectionScan`, `Build.parseFunctionScan`,
  `Build.facetScan`, `Build.whereScan` — the scans, with the law of each.
* `Build.textScan_strict`, `Build.scopeScan_strict`, `Build.collectionScan_strict`,
  `Build.parseFunctionScan_strict` — scans that refuse an argument for which there is no room.
-/

namespace SearchRequest

/-! ## What an argument contributes -/

namespace Argument

/-- The truth value of an order mark or a truth value. -/
def truth? : Argument → Option Bool
  | .ordered b => some b
  | .bool b => some b
  | _ => none

/-- The number of a weight or a number. -/
def amount? : Argument → Option Number
  | .weight n => some n
  | .number n => some n
  | _ => none

/-- Documents or properties. -/
def scope? : Argument → Option FragmentScope
  | .fragmentScope s => some s
  | _ => none

/-- Options of any kind. -/
def options? : Argument → Option (List String)
  | .rangeOptions os => some os
  | .termOptions os => some os
  | .geoOptions os => some os
  | .temporalOptions os => some os
  | .facetOptions os => some os
  | _ => none

/-- The name that is bound. -/
def boundName? : Argument → Option String
  | .bind n => some n
  | _ => none

/-- A query. -/
def query? : Argument → Option Query
  | .query q => some q
  | _ => none

/-- The criteria of a query that has any. -/
def criteria? : Argument → Option Criteria
  | .query q => q.criteria?
  | _ => none

/-- A region, or the place that stands for one. -/
def region? : Argument → Option Region
  | .region r => some r
  | .latLon l => some (.point l)
  | .list [latitude, longitude] => do
    let latitude ← latitude.number?
    let longitude ← longitude.number?
    some (.point ⟨latitude, longitude⟩)
  | _ => none

/-- A grid. -/
def heatmap? : Argument → Option Heatmap
  | .heatmap h => some h
  | _ => none

/-- The text of a time. -/
def time? : Argument → Option String
  | .text s => some s
  | .instant t => some t.millis
  | _ => none

/-- A text. -/
def text? : Argument → Option String
  | .text s => some s
  | _ => none

/-- A datatype. -/
def datatype? : Argument → Option Datatype
  | .datatype d => some d
  | _ => none

/-- The functions that compute a facet. -/
def functions? : Argument → Option FacetFunctions
  | .calculateFunction f => some f
  | _ => none

/-- A bucket with fixed bounds. -/
def bucket? : Argument → Option Bucket
  | .bucket b => some b
  | _ => none

/-- A bucket with computed bounds. -/
def computed? : Argument → Option Bucket
  | .computedBucket b => some b
  | _ => none

/-- A search text. -/
def searchText? : Argument → Option SearchText
  | .searchText t => some t
  | _ => none

/-- The literals that an argument stands for, those of its items if it is a list. -/
def literals : Argument → List Scalar
  | .list items => items.filterMap scalar?
  | a => a.scalar?.toList

/-- Whether an argument stands for literals only. -/
def isLiteral : Argument → Bool
  | .list items => items.all fun a => a.scalar?.isSome
  | a => a.scalar?.isSome

theorem mapM_asScalar (combinator : String) {items : List Argument}
    (h : ∀ a ∈ items, a.scalar?.isSome) :
    items.mapM (asScalar combinator) = .ok (items.filterMap scalar?) := by
  induction items with
  | nil => rfl
  | cons a rest ih =>
    obtain ⟨hhead, hrest⟩ := List.forall_mem_cons.1 h
    obtain ⟨v, hv⟩ := Option.isSome_iff_exists.1 hhead
    rw [List.mapM_cons, asScalar, hv, ih hrest, List.filterMap_cons, hv]
    rfl

theorem mapM_asScalar_refuses (combinator : String) {items : List Argument}
    (h : ¬∀ a ∈ items, a.scalar?.isSome) :
    ∃ o, items.mapM (asScalar combinator) = .error (.unrecognized combinator o) := by
  induction items with
  | nil => exact absurd nofun h
  | cons a rest ih =>
    rw [List.mapM_cons, asScalar]
    cases hv : a.scalar? with
    | none => exact ⟨_, rfl⟩
    | some v =>
      obtain ⟨o, ho⟩ := ih fun hrest =>
        h (List.forall_mem_cons.2 ⟨by rw [hv]; rfl, hrest⟩)
      exact ⟨o, by rw [ho]; rfl⟩

theorem asPlace_of_region (combinator : String) {items : List Argument} {r : Region}
    (h : region? (.list items) = some r) :
    ∃ l, asPlace combinator (.list items) = .ok l ∧ r = .point l := by
  match items, h with
  | [latitude, longitude], h =>
    obtain ⟨x, hx, h⟩ := Option.bind_eq_some_iff.1 h
    obtain ⟨y, hy, h⟩ := Option.bind_eq_some_iff.1 h
    refine ⟨⟨x, y⟩, ?_, (Option.some.inj h).symm⟩
    simp only [asPlace, asNumber, hx, hy]
    rfl

theorem asPlace_refuses (combinator : String) {items : List Argument}
    (h : region? (.list items) = none) :
    ∃ o, asPlace combinator (.list items) = .error (.unrecognized combinator o) := by
  match items, h with
  | [], _ => exact ⟨_, rfl⟩
  | [_], _ => exact ⟨_, rfl⟩
  | [latitude, longitude], h =>
    simp only [asPlace, asNumber]
    cases hx : latitude.number? with
    | none => exact ⟨_, rfl⟩
    | some x =>
      cases hy : longitude.number? with
      | none => exact ⟨_, rfl⟩
      | some y => simp [region?, hx, hy] at h
  | _ :: _ :: _ :: _, _ => exact ⟨_, rfl⟩

end Argument

namespace Build

open Argument

/-! ## Queries made of queries -/

/-- The scan of `and`. -/
def andScan : Scan AndParts where
  combinator := "and"
  start := {}
  add := AndParts.add
  slot
    | .ordered _ => some .mark
    | .bool _ => some .mark
    | .query _ => some .queries
    | _ => none
  read f :=
    { queries := (f .queries).filterMap query?
      ordered := (f .mark).findSome? truth? }

theorem andScan_lawful : andScan.Lawful where
  read_blank := rfl
  refuses p a h := by
    cases a with
    | ordered b => cases h
    | bool b => cases h
    | query q => cases h
    | _ => exact ⟨_, rfl⟩
  files f a k h hroom := by
    cases a with
    | ordered b =>
      cases h
      simp [andScan, AndParts.add, hroom rfl, truth?]
    | bool b =>
      cases h
      simp [andScan, AndParts.add, hroom rfl, truth?]
    | query q =>
      cases h
      simp [andScan, AndParts.add, AndParts.addQuery, asQuery, query?]
      rfl
    | _ => cases h

/-- The scan of `near`. -/
def nearScan : Scan NearParts where
  combinator := "near"
  start := {}
  add := NearParts.add
  slot
    | .ordered _ => some .mark
    | .weight _ => some .weight
    | .number _ => some .distance
    | .query _ => some .queries
    | _ => none
  read f :=
    { queries := (f .queries).filterMap query?
      ordered := (f .mark).findSome? truth?
      weight := (f .weight).findSome? amount?
      distance := (f .distance).findSome? amount? }

theorem nearScan_lawful : nearScan.Lawful where
  read_blank := rfl
  refuses p a h := by
    cases a with
    | ordered b => cases h
    | weight n => cases h
    | number n => cases h
    | query q => cases h
    | _ => exact ⟨_, rfl⟩
  files f a k h hroom := by
    cases a with
    | ordered b =>
      cases h
      simp [nearScan, NearParts.add, hroom rfl, truth?]
    | weight n =>
      cases h
      simp [nearScan, NearParts.add, hroom rfl, amount?]
    | number n =>
      cases h
      simp [nearScan, NearParts.add, hroom rfl, amount?]
    | query q =>
      cases h
      simp [nearScan, NearParts.add, NearParts.addQuery, asQuery, query?]
      rfl
    | _ => cases h

/-! ## Sets of documents -/

/-- The scan of `directory`. -/
def directoryScan : Scan DirectoryParts where
  combinator := "directory"
  start := {}
  add := DirectoryParts.add
  slot
    | .bool _ => some .mark
    | .text _ => some .addresses
    | _ => none
  read f :=
    { uris := (f .addresses).filterMap text?
      infinite := (f .mark).findSome? truth? }

theorem directoryScan_lawful : directoryScan.Lawful where
  read_blank := rfl
  refuses p a h := by
    cases a with
    | bool b => cases h
    | text s => cases h
    | _ => exact ⟨_, rfl⟩
  files f a k h hroom := by
    cases a with
    | bool b =>
      cases h
      simp [directoryScan, DirectoryParts.add, hroom rfl, truth?]
    | text s =>
      cases h
      simp [directoryScan, DirectoryParts.add, asText, text?]
      rfl
    | _ => cases h

/-- The scan of a constraint on collections. -/
def collectionScan : Scan CollectionParts where
  combinator := "collection"
  start := {}
  add := CollectionParts.add
  slot
    | .bind _ => some .name
    | .text _ => some .start
    | _ => none
  read f :=
    { name := (f .name).findSome? boundName?
      start := (f .start).findSome? text? }

theorem collectionScan_strict : collectionScan.Strict where
  read_blank := rfl
  refuses p a h := by
    cases a with
    | bind n => cases h
    | text s => cases h
    | _ => exact ⟨_, rfl⟩
  files f a k h hroom := by
    cases a with
    | bind n =>
      cases h
      simp [collectionScan, CollectionParts.add, hroom rfl, boundName?]
    | text s =>
      cases h
      simp [collectionScan, CollectionParts.add, hroom rfl, text?]
    | _ => cases h
  full f a b k ha hb hk hf := by
    cases a with
    | bind n =>
      cases ha
      cases b with
      | bind n' =>
        exact ⟨.argument (.bind n), by
          simp [collectionScan, CollectionParts.add, hf, boundName?, refuse]⟩
      | _ => cases hb
    | text s =>
      cases ha
      cases b with
      | text s' =>
        exact ⟨.argument (.text s), by
          simp [collectionScan, CollectionParts.add, hf, text?, refuse]⟩
      | _ => cases hb
    | _ => cases ha

/-- The scan of `scope`. -/
def scopeScan : Scan ScopeParts where
  combinator := "scope"
  start := {}
  add := ScopeParts.add
  slot
    | .fragmentScope _ => some .scope
    | .bind _ => some .name
    | .query (.criteria _) => some .criteria
    | _ => none
  read f :=
    { fragmentScope := (f .scope).findSome? scope?
      name := (f .name).findSome? boundName?
      criteria := (f .criteria).findSome? criteria? }

theorem scopeScan_strict : scopeScan.Strict where
  read_blank := rfl
  refuses p a h := by
    cases a with
    | fragmentScope s => cases h
    | bind n => cases h
    | query q =>
      cases q with
      | criteria c => cases h
      | _ =>
        simp only [scopeScan, ScopeParts.add]
        split <;> exact ⟨_, rfl⟩
    | _ => exact ⟨_, rfl⟩
  files f a k h hroom := by
    cases a with
    | fragmentScope s =>
      cases h
      simp [scopeScan, ScopeParts.add, hroom rfl, scope?]
    | bind n =>
      cases h
      simp [scopeScan, ScopeParts.add, hroom rfl, boundName?]
    | query q =>
      cases q with
      | criteria c =>
        cases h
        simp [scopeScan, ScopeParts.add, hroom rfl, criteria?, Query.criteria?]
      | _ => cases h
    | _ => cases h
  full f a b k ha hb hk hf := by
    cases a with
    | fragmentScope s =>
      cases ha
      cases b with
      | fragmentScope s' =>
        exact ⟨.argument (.fragmentScope s),
          by simp [scopeScan, ScopeParts.add, hf, scope?, refuse]⟩
      | query q => cases q <;> cases hb
      | _ => cases hb
    | bind n =>
      cases ha
      cases b with
      | bind n' =>
        exact ⟨.argument (.bind n), by simp [scopeScan, ScopeParts.add, hf, boundName?, refuse]⟩
      | query q => cases q <;> cases hb
      | _ => cases hb
    | query q =>
      cases q with
      | criteria c =>
        cases ha
        cases b with
        | query q' =>
          cases q' with
          | criteria c' =>
            exact ⟨.argument (.query (.criteria c)),
              by simp [scopeScan, ScopeParts.add, hf, criteria?, Query.criteria?, refuse]⟩
          | _ => cases hb
        | _ => cases hb
      | _ => cases ha
    | _ => cases ha

/-! ## Terms, words and values -/

/-- The scan of `term`. -/
def termScan : Scan TermParts where
  combinator := "term"
  start := {}
  add := TermParts.add
  slot
    | .weight _ => some .weight
    | .number _ => some .weight
    | a => if a.isLiteral then some .texts else none
  read f :=
    { text := (f .texts).flatMap literals
      weight := (f .weight).findSome? amount? }

theorem termScan_lawful : termScan.Lawful where
  read_blank := rfl
  refuses p a h := by
    cases a with
    | weight n => cases h
    | number n => cases h
    | list items =>
      have hitems : ¬∀ a ∈ items, a.scalar?.isSome := by
        simpa [termScan, isLiteral] using h
      obtain ⟨o, ho⟩ := mapM_asScalar_refuses "term" hitems
      exact ⟨o, by simp [termScan, TermParts.add, ho]; rfl⟩
    | null | text _ | bool _ | instant _ => cases h
    | _ => exact ⟨_, rfl⟩
  files f a k h hroom := by
    cases a with
    | weight n =>
      cases h
      simp [termScan, TermParts.add, hroom rfl, amount?]
    | number n =>
      cases h
      simp [termScan, TermParts.add, hroom rfl, amount?]
    | list items =>
      obtain ⟨hitems, hk⟩ : (∀ a ∈ items, a.scalar?.isSome) ∧ .texts = k := by
        simpa [termScan, isLiteral] using h
      subst hk
      simp [termScan, TermParts.add, mapM_asScalar "term" hitems, literals]
      rfl
    | null | text _ | bool _ | instant _ =>
      cases h
      simp [termScan, TermParts.add, literals, scalar?, asScalar]
      rfl
    | _ => cases h

/-- The scan of `word` or `value`. -/
def textScan (kind : TextKind) : Scan TextParts where
  combinator := kind.name
  start := {}
  add := TextParts.add kind
  slot
    | .fragmentScope _ => some .scope
    | .termOptions _ => some .options
    | .weight _ => some .weight
    | .bind _ => some .name
    | .bindDefault => some .default
    | a => if a.isLiteral then some .texts else none
  read f :=
    { fragmentScope := (f .scope).findSome? scope?
      options := (f .options).findSome? options?
      weight := (f .weight).findSome? amount?
      text := (f .texts).flatMap literals
      name := (f .name).findSome? boundName?
      isDefault := !(f .default).isEmpty }

theorem textScan_strict (kind : TextKind) : (textScan kind).Strict where
  read_blank := rfl
  refuses p a h := by
    cases a with
    | fragmentScope _ | termOptions _ | weight _ | bind _ | bindDefault => cases h
    | list items =>
      have hitems : ¬∀ a ∈ items, a.scalar?.isSome := by
        simpa [textScan, isLiteral] using h
      obtain ⟨o, ho⟩ := mapM_asScalar_refuses kind.name hitems
      exact ⟨o, by simp [textScan, TextParts.add, ho]; rfl⟩
    | null | text _ | number _ | bool _ | instant _ => cases h
    | _ => exact ⟨_, rfl⟩
  files f a k h hroom := by
    cases a with
    | fragmentScope s =>
      cases h
      simp [textScan, TextParts.add, hroom rfl, scope?]
    | termOptions os =>
      cases h
      simp [textScan, TextParts.add, hroom rfl, options?]
    | weight n =>
      cases h
      simp [textScan, TextParts.add, hroom rfl, amount?]
    | bind n =>
      cases h
      simp [textScan, TextParts.add, hroom rfl, boundName?]
    | bindDefault =>
      cases h
      simp [textScan, TextParts.add, hroom rfl]
    | list items =>
      obtain ⟨hitems, hk⟩ : (∀ a ∈ items, a.scalar?.isSome) ∧ .texts = k := by
        simpa [textScan, isLiteral] using h
      subst hk
      simp [textScan, TextParts.add, mapM_asScalar kind.name hitems, literals]
      rfl
    | null | text _ | number _ | bool _ | instant _ =>
      cases h
      simp [textScan, TextParts.add, TextParts.addText, literals, scalar?, asScalar]
      rfl
    | _ => cases h
  full f a b k ha hb hk hf := by
    cases a with
    | fragmentScope s =>
      cases ha
      cases b with
      | fragmentScope s' =>
        exact ⟨.argument (.fragmentScope s), by
          simp [textScan, TextParts.add, TextParts.addText, hf, scope?, asScalar, scalar?]; rfl⟩
      | list items => simp [textScan] at hb
      | _ => cases hb
    | termOptions os =>
      cases ha
      cases b with
      | termOptions os' =>
        exact ⟨.argument (.termOptions os), by
          simp [textScan, TextParts.add, TextParts.addText, hf, options?, asScalar, scalar?]; rfl⟩
      | list items => simp [textScan] at hb
      | _ => cases hb
    | weight n =>
      cases ha
      cases b with
      | weight n' =>
        exact ⟨.argument (.weight n), by
          simp [textScan, TextParts.add, TextParts.addText, hf, amount?, asScalar, scalar?]; rfl⟩
      | list items => simp [textScan] at hb
      | _ => cases hb
    | bind n =>
      cases ha
      cases b with
      | bind n' =>
        exact ⟨.argument (.bind n), by
          simp [textScan, TextParts.add, TextParts.addText, hf, boundName?, asScalar, scalar?]; rfl⟩
      | list items => simp [textScan] at hb
      | _ => cases hb
    | bindDefault =>
      cases ha
      exact ⟨.argument .bindDefault, by
        simp [textScan, TextParts.add, TextParts.addText, hf, asScalar, scalar?]; rfl⟩
    | list items =>
      obtain ⟨-, hk'⟩ : (∀ a ∈ items, a.scalar?.isSome) ∧ .texts = k := by
        simpa [textScan, isLiteral] using ha
      subst hk'
      cases hk
    | null | text _ | number _ | bool _ | instant _ =>
      cases ha
      cases hk
    | _ => cases ha

/-! ## Times, parse functions, facets and criteria -/

/-- The scan of `lsqt`, after the name of the collection. -/
def lsqtScan (collection : String) : Scan LsqtSpec where
  combinator := "lsqt_query"
  start := { temporalCollection := collection }
  add := addToLsqt
  slot
    | .weight _ => some .weight
    | .number _ => some .weight
    | .text _ => some .time
    | .instant _ => some .time
    | .temporalOptions _ => some .options
    | _ => none
  read f :=
    { temporalCollection := collection
      weight := (f .weight).findSome? amount?
      timestamp := (f .time).findSome? time?
      temporalOption := (f .options).findSome? options? }

theorem lsqtScan_lawful (collection : String) : (lsqtScan collection).Lawful where
  read_blank := rfl
  refuses p a h := by
    cases a with
    | weight _ | number _ | text _ | instant _ | temporalOptions _ => cases h
    | _ => exact ⟨_, rfl⟩
  files f a k h hroom := by
    cases a with
    | weight _ | number _ =>
      cases h
      simp [lsqtScan, addToLsqt, hroom rfl, amount?]
    | text _ | instant _ =>
      cases h
      simp [lsqtScan, addToLsqt, hroom rfl, time?]
    | temporalOptions os =>
      cases h
      simp [lsqtScan, addToLsqt, hroom rfl, options?]
    | _ => cases h

/-- The scan of `parseFunction`, after the name of the file. -/
def parseFunctionScan : Scan ParseFunctionParts where
  combinator := "parse_function"
  start := {}
  add := ParseFunctionParts.add
  slot
    | .bind _ => some .name
    | .termOptions _ => some .options
    | _ => none
  read f :=
    { name := (f .name).findSome? boundName?
      options := (f .options).findSome? options? }

theorem parseFunctionScan_lawful : parseFunctionScan.Lawful where
  read_blank := rfl
  refuses p a h := by
    cases a with
    | bind _ | termOptions _ => cases h
    | _ => exact ⟨_, rfl⟩
  files f a k h hroom := by
    cases a with
    | bind n =>
      cases h
      simp [parseFunctionScan, ParseFunctionParts.add, hroom rfl, boundName?]
    | termOptions os =>
      cases h
      simp [parseFunctionScan, ParseFunctionParts.add, hroom rfl, options?]
    | _ => cases h

theorem parseFunctionScan_strict : parseFunctionScan.Strict where
  toLawful := parseFunctionScan_lawful
  full f a b k ha hb hk hf := by
    cases a with
    | bind n =>
      cases ha
      cases b with
      | bind m =>
        exact ⟨.argument (.bind n),
          by simp [parseFunctionScan, ParseFunctionParts.add, hf, boundName?, refuse]⟩
      | _ => cases hb
    | termOptions os =>
      cases ha
      cases b with
      | termOptions os' =>
        exact ⟨.argument (.termOptions os),
          by simp [parseFunctionScan, ParseFunctionParts.add, hf, options?, refuse]⟩
      | _ => cases hb
    | _ => cases ha

/-- The scan of `facet`, after the name and the source. -/
def facetScan : Scan FacetParts where
  combinator := "facet"
  start := {}
  add := FacetParts.add
  slot
    | .datatype _ => some .datatype
    | .facetOptions _ => some .options
    | .calculateFunction _ => some .functions
    | .bucket _ => some .buckets
    | .computedBucket _ => some .computed
    | _ => none
  read f :=
    { datatype := (f .datatype).findSome? datatype?
      options := (f .options).findSome? options?
      functions := (f .functions).findSome? functions?
      buckets := (f .buckets).filterMap bucket?
      computed := (f .computed).filterMap computed? }

theorem facetScan_lawful : facetScan.Lawful where
  read_blank := rfl
  refuses p a h := by
    cases a with
    | datatype _ | facetOptions _ | calculateFunction _ | bucket _ | computedBucket _ => cases h
    | _ => exact ⟨_, rfl⟩
  files f a k h hroom := by
    cases a with
    | datatype d =>
      cases h
      simp [facetScan, FacetParts.add, hroom rfl, datatype?]
    | facetOptions os =>
      cases h
      simp [facetScan, FacetParts.add, hroom rfl, options?]
    | calculateFunction g =>
      cases h
      simp [facetScan, FacetParts.add, hroom rfl, functions?]
    | bucket b =>
      cases h
      simp [facetScan, FacetParts.add, bucket?]
    | computedBucket b =>
      cases h
      simp [facetScan, FacetParts.add, computed?]
    | _ => cases h

/-- The scan of a where clause. -/
def whereScan : Scan WhereParts where
  combinator := "where"
  start := {}
  add := WhereParts.add
  slot
    | .searchText _ => some .searchText
    | .fragmentScope _ => some .scope
    | .query _ => some .queries
    | _ => none
  read f :=
    { queries := (f .queries).filterMap query?
      searchText := (f .searchText).findSome? searchText?
      fragmentScope := (f .scope).findSome? scope? }

theorem whereScan_lawful : whereScan.Lawful where
  read_blank := rfl
  refuses p a h := by
    cases a with
    | searchText _ | fragmentScope _ | query _ => cases h
    | _ => exact ⟨_, rfl⟩
  files f a k h hroom := by
    cases a with
    | searchText t =>
      cases h
      simp [whereScan, WhereParts.add, hroom rfl, searchText?]
    | fragmentScope s =>
      cases h
      simp [whereScan, WhereParts.add, hroom rfl, scope?]
    | query q =>
      cases h
      simp [whereScan, WhereParts.add, WhereParts.addQuery, asQuery, query?]
      rfl
    | _ => cases h

end Build

end SearchRequest
