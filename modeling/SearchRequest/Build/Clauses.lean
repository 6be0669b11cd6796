import SearchRequest.Build.Composition
import SearchRequest.Build.Results

/-!
# The clauses of a request

Each function sets one clause of a request and leaves the others as they are.

* `Build.byExample` — an example of the documents to match.
* `Request.setWhere`, `Request.setFacets`, `Request.setOrder`, `Request.setSlice`,
  `Request.setOptions` — the clauses.
* `WhereClause.replaceExample` and the other edits of criteria in place.
-/

namespace SearchRequest

/-- The example that a JSON object carries under its key, if the object has one. -/
def ValueMap.example? (m : ValueMap) : Option Value := m.get? exampleKey

namespace Build

/-- An example of the documents to match.  A single example may already stand under its key;
several examples become a list, and so does none. -/
def byExample (args : List Argument) : Build Value :=
  match Argument.spliceSole args with
  | [.byExample v] => .ok v
  | [.json v] => .ok ((v.object?.bind ValueMap.example?).getD v)
  | [a] => a.asValue "by_example"
  | args => (Argument.asValues "by_example" args).map Value.array

/-- What the arguments of a where clause add up to. -/
structure WhereParts where
  /-- The queries so far. -/
  queries : List Query := []
  /-- The search text. -/
  searchText : Option SearchText := none
  /-- Documents or properties. -/
  fragmentScope : Option FragmentScope := none

namespace WhereParts

/-- The parts with another query. -/
def addQuery (p : WhereParts) (a : Argument) : Build WhereParts := do
  let q ← a.asQuery "where"
  .ok { p with queries := p.queries ++ [q] }

/-- The parts with another argument: a search text and a scope count the first time they come,
everything else is a query. -/
def add (p : WhereParts) : Argument → Build WhereParts
  | .searchText t => if p.searchText.isNone then .ok { p with searchText := some t }
      else p.addQuery (.searchText t)
  | .fragmentScope s => if p.fragmentScope.isNone then .ok { p with fragmentScope := some s }
      else p.addQuery (.fragmentScope s)
  | a => p.addQuery a

/-- The criteria: with neither a query nor a search text, every document matches. -/
def clause (p : WhereParts) : StructuredWhere where
  queries :=
    if !p.queries.isEmpty then some p.queries
    else if p.searchText.isNone then some [.criteria (.and [] none)]
    else none
  searchText := p.searchText
  fragmentScope := p.fragmentScope

end WhereParts

/-- The example that a where clause is given as its only argument. -/
def soleExample? : List Argument → Option Value
  | [.byExample v] => some v
  | [.json v] => v.object?.bind ValueMap.example?
  | _ => none

/-- The criteria that the arguments of a where clause make. -/
def whereClause (args : List Argument) : Build WhereClause := do
  let args := Argument.spliceSole args
  match soleExample? args with
  | some v => .ok (.byExample v)
  | none => do
    let p ← (Argument.flatten args).foldlM WhereParts.add {}
    .ok (.structured p.clause)

/-- An argument that must be a facet. -/
def asFacet : Argument → Build Facet
  | .facet f => .ok f
  | a => Argument.refuse "calculate" a

/-- An argument that stands for a sort key; a text sorts upwards by the property of that name. -/
def asSortKey : Argument → Build SortKey
  | .text name =>
    .ok { index := { jsonProperty := some name }, direction := some .ascending }
  | .sort k => .ok k
  | .score method => .ok { score := some method }
  | a => Argument.refuse "order_by" a

/-! ## Pages -/

/-- What the arguments of a slice clause add up to. -/
structure SliceParts where
  /-- The shape of each result. -/
  clause : SliceClause := {}
  /-- The number in the first place. -/
  start : Option UInt64 := none
  /-- The number in the second place. -/
  length : Option UInt64 := none
  /-- How many arguments have been seen. -/
  position : Nat := 0

namespace SliceParts

/-- The parts with another argument: a number counts in the first two places, a marker of the
shape of results anywhere, a later one in place of an earlier one. -/
def add (p : SliceParts) : Argument → Build SliceParts
  | .number n =>
    if p.position < 2 then
      match n.toUInt64? with
      | none => .error (.unrecognized "slice" (.number n))
      | some k =>
        if p.position = 0 then .ok { p with start := some k, position := p.position + 1 }
        else .ok { p with length := some k, position := p.position + 1 }
    else Argument.refuse "slice" (.number n)
  | .snippet s =>
    .ok { p with clause := { p.clause with snippet := some s }, position := p.position + 1 }
  | .extract e =>
    .ok { p with clause := { p.clause with extract := some e }, position := p.position + 1 }
  | .transform t =>
    .ok { p with clause := { p.clause with transform := some t }, position := p.position + 1 }
  | a => Argument.refuse "slice" a

/-- The clause.  A length of zero, or a start of zero without a length, asks for no results. -/
def result (p : SliceParts) : SliceClause :=
  match p.start, p.length with
  | some start, some length =>
    { p.clause with
      pageStart := if length = 0 then none else some start
      pageLength := some length }
  | some start, none =>
    if start = 0 then { p.clause with pageLength := some 0 }
    else { p.clause with pageStart := some start }
  | none, length => { p.clause with pageLength := length }

end SliceParts

/-- The page that the arguments of a slice clause make. -/
def sliceClause (args : List Argument) : Build SliceClause := do
  let p ← (Argument.spliceSole args).foldlM SliceParts.add {}
  .ok p.result

end Build

/-! ## Setting clauses -/

namespace Request

/-- The request with criteria. -/
def setWhere (r : Request) (args : List Argument) : Build Request := do
  let clause ← Build.whereClause args
  .ok { r with
    whereClause := some clause, queryType := some clause.queryType, queryFormat := some .json }

/-- The request with facets. -/
def setFacets (r : Request) (args : List Argument) : Build Request := do
  let facets ← (Argument.flatten (Argument.spliceSole args)).mapM Build.asFacet
  .ok { r with facets := some facets }

/-- The request with sort keys. -/
def setOrder (r : Request) (args : List Argument) : Build Request := do
  let keys ← (Argument.flatten (Argument.spliceSole args)).mapM Build.asSortKey
  .ok { r with sortKeys := some keys }

/-- The request with a page of results. -/
def setSlice (r : Request) (args : List Argument) : Build Request := do
  let clause ← Build.sliceClause args
  .ok { r with slice := some clause }

/-- The request with the options of a configuration. -/
def setOptions (r : Request) (config : ValueMap) : Build Request := do
  let options ← (Options.ofConfig config).mapError .unreadable
  .ok { r with options := some options }

/-- The request that a document holds. -/
def read (ρ : FloatReader) (document : String) : Build Request :=
  (ofText ρ document).mapError .unreadable

/-- The request with its criteria edited. -/
def editWhere (r : Request) (edit : WhereClause → WhereClause) : Request :=
  { r with whereClause := r.whereClause.map edit }

end Request

/-! ## Editing criteria -/

namespace WhereClause

/-- Another example in place of the one there is. -/
def replaceExample (v : Value) : WhereClause → WhereClause
  | .byExample _ => .byExample v
  | w => w

/-- Criteria with a part changed, if they are queries or a search text. -/
def editStructured (edit : StructuredWhere → StructuredWhere) : WhereClause → WhereClause
  | .structured s => .structured (edit s)
  | w => w

end WhereClause

namespace StructuredWhere

/-- Other documents or properties. -/
def setScope (s : StructuredWhere) (scope : Option FragmentScope) : StructuredWhere :=
  { s with fragmentScope := scope }

/-- No list of queries. -/
def clearQueries (s : StructuredWhere) : StructuredWhere := { s with queries := none }

/-- One more query, in a new list if there is none. -/
def pushQuery (s : StructuredWhere) (q : Query) : StructuredWhere :=
  { s with queries := some (s.queries.getD [] ++ [q]) }

end StructuredWhere

end SearchRequest
