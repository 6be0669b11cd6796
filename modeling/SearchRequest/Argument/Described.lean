import SearchRequest.Argument.Basic
import SearchRequest.Document.Described

/-!
# Arguments described for error messages

* `Argument.described` — an argument as an error message shows it.
-/

namespace SearchRequest.Argument

open Described (option texts)

mutual
/-- An argument as an error message shows it. -/
def described : Argument → Described
  | .null => .word "Null"
  | .text s => .tuple "Text" [.quoted s]
  | .number n => .tuple "Number" [n.described]
  | .bool b => .tuple "Bool" [Described.bool b]
  | .instant t => .tuple "DateTime" [.word t.fewest]
  | .list items => .tuple "List" [.list (describedAll items)]
  | .json v => .tuple "Json" [v.tree.described]
  | .query q => .tuple "Query" [q.described]
  | .index i => .tuple "Index" [i.described]
  | .qname q => .tuple "QName" [q.described]
  | .datatype d => .tuple "Datatype" [d.described]
  | .fragmentScope s => .tuple "FragmentScope" [s.described]
  | .weight n => .tuple "Weight" [n.described]
  | .ordered b => .tuple "Ordered" [Described.bool b]
  | .rangeOptions options => .tuple "RangeOptions" [texts options]
  | .termOptions options => .tuple "TermOptions" [texts options]
  | .geoOptions options => .tuple "GeoOptions" [texts options]
  | .temporalOptions options => .tuple "TemporalOptions" [texts options]
  | .facetOptions options => .tuple "FacetOptions" [texts options]
  | .bind name => .tuple "Bind" [.quoted name]
  | .bindDefault => .word "BindDefault"
  | .bindEmpty policy => .tuple "BindEmpty" [policy.described]
  | .latLon p => .tuple "LatLon" [p.described]
  | .region r => .tuple "Region" [r.described]
  | .bounds b => .tuple "Bounds" [b.described]
  | .heatmap h => .tuple "Heatmap" [h.described]
  | .period p => .tuple "Period" [p.described]
  | .bucket b => .tuple "Bucket" [b.described]
  | .computedBucket b => .tuple "ComputedBucket" [b.described]
  | .anchor a => .tuple "Anchor" [a.described]
  | .calculateFunction f => .tuple "CalculateFunction" [f.described]
  | .facet f => .tuple "Facet" [f.described]
  | .score method => .tuple "Score" [option .quoted method]
  | .sort k => .tuple "Sort" [k.described]
  | .transform t => .tuple "Transform" [t.described]
  | .extract e => .tuple "Extract" [e.described]
  | .snippet s => .tuple "Snippet" [s.described]
  | .searchText t => .tuple "Parsed" [t.described]
  | .bindings b => .tuple "Bindings" [b.described]
  | .byExample v =>
    .tuple "ByExample" [.record "QueryByExample" [("query", v.tree.described)]]
/-- Arguments as an error message shows them. -/
def describedAll : List Argument → List Described
  | [] => []
  | a :: rest => described a :: describedAll rest
end

end SearchRequest.Argument
