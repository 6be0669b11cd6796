import SearchRequest.Document.Query

/-!
# Queries as they are read

A query is read by trying its four shapes in turn: criteria, a constraint, a default, and the
declaration of an index.  Criteria hold queries in turn, so both decoders are defined by
recursion on a bound for the nesting; `Query.decoder` and `Criteria.decoder` take the bound from
the draft they read.

* `Query.decoder`, `Criteria.decoder` — the decoders.
-/

namespace SearchRequest

/-! ## Bodies -/

namespace TextSpec

/-- The fields of the body beside those of the index. -/
def ownFields : Fields (IndexFields → TextSpec) :=
  (fun scope options weight text index => ⟨index, scope, options, weight, text⟩) <$>
    Fields.optional "fragment-scope" FragmentScope.decoder <*>
    Fields.optional "term-option" Decoder.strings <*>
    Fields.optional "weight" Decoder.number <*>
    Fields.optional "text" (Decoder.list Scalar.decoder)

/-- The body, read. -/
def decoder : Decoder TextSpec := fun o d =>
  (ownFields.withOpenPart IndexFields.within o d).map fun (make, index) => make index

end TextSpec

namespace RangeSpec

/-- The fields of the body beside those of the index. -/
def ownFields : Fields (IndexFields → RangeSpec) :=
  (fun datatype collation scope options value operator index =>
      ⟨index, datatype, collation, scope, options, value, operator⟩) <$>
    Fields.optional "type" Decoder.string <*>
    Fields.optional "collation" Decoder.string <*>
    Fields.optional "fragment-scope" FragmentScope.decoder <*>
    Fields.optional "range-option" Decoder.strings <*>
    Fields.optional "value" (Decoder.list Scalar.decoder) <*>
    Fields.optional "range-operator" RangeOperator.decoder

/-- The body, read. -/
def decoder : Decoder RangeSpec := fun o d =>
  (ownFields.withOpenPart IndexFields.within o d).map fun (make, index) => make index

end RangeSpec

namespace ContainerSpec

/-- The field of the body beside those of the index. -/
def ownFields : Fields (Option FragmentScope) :=
  Fields.optional "fragment-scope" FragmentScope.decoder

/-- The body, read. -/
def decoder : Decoder ContainerSpec := fun o d =>
  (ownFields.withOpenPart IndexFields.within o d).map fun (scope, index) => ⟨index, scope⟩

end ContainerSpec

/-- The body of a query as of a time, read. -/
def LsqtSpec.decoder : Decoder LsqtSpec :=
  Fields.record (mk <$> Fields.required "temporal-collection" Decoder.string <*>
    Fields.optional "weight" Decoder.number <*>
    Fields.optional "timestamp" Decoder.string <*>
    Fields.optional "temporal-option" Decoder.strings)

/-- A period, read. -/
def Period.decoder : Decoder Period :=
  Fields.record (mk <$> Fields.required "period-start" Decoder.string <*>
    Fields.optional "period-end" Decoder.string)

/-- The body of a comparison of two axes, read. -/
def AxisComparison.decoder : Decoder AxisComparison :=
  Fields.record (mk <$> Fields.required "axis1" Decoder.string <*>
    Fields.required "temporal-operator" Decoder.string <*>
    Fields.required "axis2" Decoder.string <*>
    Fields.optional "temporal-option" Decoder.strings)

/-- The body of a comparison of axes with periods, read. -/
def PeriodComparison.decoder : Decoder PeriodComparison :=
  Fields.record (mk <$> Fields.required "axis" Decoder.strings <*>
    Fields.required "temporal-operator" Decoder.string <*>
    Fields.required "period" (Decoder.list Period.decoder) <*>
    Fields.optional "temporal-option" Decoder.strings)

/-- The body of a custom constraint, read. -/
def CustomConstraint.decoder : Decoder CustomConstraint :=
  Fields.record (mk <$> Fields.required "parse" LibraryFunction.decoder <*>
    Fields.required "facet" Decoder.bool <*>
    Fields.optional "term-option" Decoder.strings)

/-! ## Nodes that hold no query -/

/-- A decoder, for one case of a choice. -/
def Decoder.as {α β : Type} (decoder : Decoder α) (wrap : α → β) : Decoder β := fun o d =>
  (decoder o d).map wrap

/-- One case for each kind of geospatial index. -/
def GeoKind.cases {β : Type} (key : GeoKind → String) (wrap : GeoKind → GeoSpec → β) :
    List (String × Decoder β) :=
  GeoKind.all.map fun kind => (key kind, GeoSpec.decoder.as (wrap kind))

/-- The cases of a constraint. -/
def ConstraintSpec.cases : List (String × Decoder ConstraintSpec) :=
  [("range", RangeSpec.decoder.as .range),
    ("word", TextSpec.decoder.as (.text .word)),
    ("value", TextSpec.decoder.as (.text .value)),
    ("collection",
      Decoder.as (Fields.record (Fields.optional "prefix" Decoder.string)) .collection),
    ("container", ContainerSpec.decoder.as .container)] ++
  GeoKind.cases GeoKind.key .geo ++
  [("custom", CustomConstraint.decoder.as .custom)]

/-- A constraint, read. -/
def Constraint.decoder : Decoder Constraint := fun o d =>
  ((Fields.required "name" Decoder.string).withOpenPart
    (Decoder.caseWithin ConstraintSpec.cases) o d).map fun (name, spec) => ⟨name, spec⟩

/-- A default, read. -/
def DefaultSpec.decoder : Decoder DefaultSpec :=
  Decoder.oneOf [] [("range", RangeSpec.decoder.as .range),
    ("word", TextSpec.decoder.as (.text .word)),
    ("value", TextSpec.decoder.as (.text .value))]

/-- The declaration of an index, read. -/
def IndexDeclaration.decoder : Decoder IndexDeclaration :=
  Decoder.oneOf [] (("collection", Decoder.null.as fun _ => .collection) ::
    GeoKind.cases GeoKind.key .geo)

/-! ## Queries and criteria -/

/-- The cases of criteria, given how the queries and the criteria in them are read. -/
def Criteria.cases (query : Decoder Query) (inner : Decoder (ContainerSpec × Criteria)) :
    List (String × Decoder Criteria) :=
  [("and-query", Fields.record (Criteria.and <$>
      Fields.required "queries" (Decoder.list query) <*>
      Fields.optional "ordered" Decoder.bool)),
    ("or-query", Fields.record (Criteria.or <$>
      Fields.required "queries" (Decoder.list query))),
    ("not-query", query.as .not),
    ("and-not-query", Fields.record (Criteria.andNot <$>
      Fields.required "positive-query" query <*> Fields.required "negative-query" query)),
    ("not-in-query", Fields.record (Criteria.notIn <$>
      Fields.required "positive-query" query <*> Fields.required "negative-query" query)),
    ("boost-query", Fields.record (Criteria.boost <$>
      Fields.required "matching-query" query <*> Fields.required "boosting-query" query)),
    ("near-query", Fields.record (Criteria.near <$>
      Fields.required "queries" (Decoder.list query) <*>
      Fields.optional "ordered" Decoder.bool <*>
      Fields.optional "weight" Decoder.number <*>
      Fields.optional "distance" Decoder.number)),
    ("term-query", Fields.record (Criteria.term <$>
      Fields.required "text" (Decoder.list Scalar.decoder) <*>
      Fields.optional "weight" Decoder.number)),
    ("word-query", TextSpec.decoder.as (.text .word)),
    ("value-query", TextSpec.decoder.as (.text .value)),
    ("range-query", RangeSpec.decoder.as .range),
    ("collection-query", Fields.record (Criteria.collection <$>
      Fields.required "uri" Decoder.strings)),
    ("directory-query", Fields.record (Criteria.directory <$>
      Fields.required "uri" Decoder.strings <*> Fields.optional "infinite" Decoder.bool)),
    ("document-query", Fields.record (Criteria.document <$>
      Fields.required "uri" Decoder.strings)),
    ("document-fragment-query", query.as .documentFragment),
    ("properties-query", query.as .properties),
    ("locks-fragment-query", query.as .locksFragment),
    ("container-query", inner.as fun (spec, criteria) => .container spec criteria)] ++
  GeoKind.cases GeoKind.queryKey .geo ++
  [("lsqt-query", LsqtSpec.decoder.as .lsqt),
    ("period-compare-query", AxisComparison.decoder.as .axisComparison),
    ("period-range-query", PeriodComparison.decoder.as .periodComparison)]

/-- A container with the criteria inside it, given the cases of these. -/
def ContainerSpec.decoderWith (cases : List (String × Decoder Criteria)) :
    Decoder (ContainerSpec × Criteria) := fun o d =>
  (ContainerSpec.ownFields.withOpenPart (fun entries => do
    let index ← IndexFields.within entries
    let criteria ← Decoder.caseWithin cases entries
    .ok (index, criteria)) o d).map fun (scope, index, criteria) => (⟨index, scope⟩, criteria)

/-- The shapes of a query, given the cases of criteria. -/
def Query.shapes (cases : List (String × Decoder Criteria)) : List (Decoder Query) :=
  [(Decoder.oneOf [] cases).as .criteria,
    Constraint.decoder.as .constraint,
    Decoder.as (Fields.record (Fields.required "default" DefaultSpec.decoder)) .default,
    IndexDeclaration.decoder.as .index]

/-- The cases of criteria, for drafts in which no more than `depth` arrays and objects are nested
in one another. -/
def Criteria.casesWithin : Nat → List (String × Decoder Criteria)
  | 0 => []
  | depth + 1 =>
    let cases := Criteria.casesWithin depth
    Criteria.cases (Decoder.firstOf (Query.shapes cases)) (ContainerSpec.decoderWith cases)

mutual
/-- How many arrays and objects are nested in one another in a draft. -/
def Draft.depth : Draft → Nat
  | .array items _ => Draft.depthOfItems items + 1
  | .object entries _ => Draft.depthOfEntries entries + 1
  | _ => 0
/-- The depth of the deepest item. -/
def Draft.depthOfItems : List Draft → Nat
  | [] => 0
  | d :: rest => max (Draft.depth d) (Draft.depthOfItems rest)
/-- The depth of the deepest entry. -/
def Draft.depthOfEntries : List (Draft × Draft) → Nat
  | [] => 0
  | (_, d) :: rest => max (Draft.depth d) (Draft.depthOfEntries rest)
end

/-- Criteria, read. -/
def Criteria.decoder : Decoder Criteria := fun o d =>
  Decoder.oneOf [] (Criteria.casesWithin d.depth) o d

/-- A query, read. -/
def Query.decoder : Decoder Query := fun o d =>
  Decoder.firstOf (Query.shapes (Criteria.casesWithin d.depth)) o d

end SearchRequest
