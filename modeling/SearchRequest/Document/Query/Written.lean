import SearchRequest.Document.Query

/-!
# Queries as they are written

Criteria are written as an object whose only key says what they are; a constraint, a default and a
declaration likewise, a constraint with its name besides.

* `Criteria.member` — the key of criteria and what is written under it.
* `Query.node` — a query as it is written.
-/

namespace SearchRequest

/-! ## Bodies -/

namespace TextSpec

/-- The body as it is written. -/
def node (t : TextSpec) : Node :=
  .record (t.index.entries ++
    Node.optional "fragment-scope" FragmentScope.node t.fragmentScope ++
    Node.optional "term-option" Node.strings t.termOption ++
    Node.optional "weight" Number.node t.weight ++
    Node.optional "text" (Node.listOf Scalar.node) t.text)

end TextSpec

namespace RangeSpec

/-- The body as it is written. -/
def node (r : RangeSpec) : Node :=
  .record (r.index.entries ++
    Node.optional "type" .string r.datatype ++
    Node.optional "collation" .string r.collation ++
    Node.optional "fragment-scope" FragmentScope.node r.fragmentScope ++
    Node.optional "range-option" Node.strings r.rangeOption ++
    Node.optional "value" (Node.listOf Scalar.node) r.value ++
    Node.optional "range-operator" RangeOperator.node r.operator)

end RangeSpec

namespace ContainerSpec

/-- The entries of the body. -/
def entries (c : ContainerSpec) : List (String × Node) :=
  c.index.entries ++ Node.optional "fragment-scope" FragmentScope.node c.fragmentScope

/-- The body as it is written. -/
def node (c : ContainerSpec) : Node := .record c.entries

end ContainerSpec

/-- The body of a query as of a time, as it is written. -/
def LsqtSpec.node (l : LsqtSpec) : Node :=
  .record (Node.member "temporal-collection" (.string l.temporalCollection) ++
    Node.optional "weight" Number.node l.weight ++
    Node.optional "timestamp" .string l.timestamp ++
    Node.optional "temporal-option" Node.strings l.temporalOption)

/-- A period as it is written. -/
def Period.node (p : Period) : Node :=
  .record (Node.member "period-start" (.string p.start) ++
    Node.optional "period-end" .string p.finish)

/-- The body of a comparison of two axes, as it is written. -/
def AxisComparison.node (a : AxisComparison) : Node :=
  .record (Node.member "axis1" (.string a.axis1) ++
    Node.member "temporal-operator" (.string a.operator) ++
    Node.member "axis2" (.string a.axis2) ++
    Node.optional "temporal-option" Node.strings a.temporalOption)

/-- The body of a comparison of axes with periods, as it is written. -/
def PeriodComparison.node (p : PeriodComparison) : Node :=
  .record (Node.member "axis" (Node.strings p.axis) ++
    Node.member "temporal-operator" (.string p.operator) ++
    Node.member "period" (Node.listOf Period.node p.period) ++
    Node.optional "temporal-option" Node.strings p.temporalOption)

/-- The body of a custom constraint, as it is written. -/
def CustomConstraint.node (c : CustomConstraint) : Node :=
  .record (Node.member "parse" c.parse.node ++ Node.member "facet" (.bool c.facet) ++
    Node.optional "term-option" Node.strings c.termOption)

/-! ## Nodes that hold no query -/

/-- The key of a constraint and what is written under it. -/
def ConstraintSpec.member : ConstraintSpec → String × Node
  | .range spec => ("range", spec.node)
  | .text kind spec => (kind.name, spec.node)
  | .collection start => ("collection", .record (Node.optional "prefix" .string start))
  | .container spec => ("container", spec.node)
  | .geo kind spec => (kind.key, spec.node)
  | .custom spec => ("custom", spec.node)

/-- A constraint as it is written: its name, and its key beside it. -/
def Constraint.node (c : Constraint) : Node :=
  .record (Node.member "name" (.string c.name) ++ [c.spec.member])

/-- A default as it is written. -/
def DefaultSpec.node : DefaultSpec → Node
  | .range spec => .named "range" spec.node
  | .text kind spec => .named kind.name spec.node

/-- The declaration of an index as it is written. -/
def IndexDeclaration.node : IndexDeclaration → Node
  | .collection => .named "collection" .null
  | .geo kind spec => .named kind.key spec.node

/-! ## Queries and criteria -/

mutual
/-- A query as it is written. -/
def Query.node : Query → Node
  | .criteria c => .named (Criteria.member c).1 (Criteria.member c).2
  | .constraint c => c.node
  | .default spec => .record (Node.member "default" spec.node)
  | .index declaration => declaration.node
termination_by structural q => q
/-- The key of criteria and what is written under it. -/
def Criteria.member : Criteria → String × Node
  | .and queries ordered =>
    ("and-query", .record (Node.member "queries" (.list (Query.nodes queries)) ++
      Node.optional "ordered" .bool ordered))
  | .or queries => ("or-query", .record (Node.member "queries" (.list (Query.nodes queries))))
  | .not query => ("not-query", Query.node query)
  | .andNot positive negative =>
    ("and-not-query", .record (Node.member "positive-query" (Query.node positive) ++
      Node.member "negative-query" (Query.node negative)))
  | .notIn positive negative =>
    ("not-in-query", .record (Node.member "positive-query" (Query.node positive) ++
      Node.member "negative-query" (Query.node negative)))
  | .boost matching boosting =>
    ("boost-query", .record (Node.member "matching-query" (Query.node matching) ++
      Node.member "boosting-query" (Query.node boosting)))
  | .near queries ordered weight distance =>
    ("near-query", .record (Node.member "queries" (.list (Query.nodes queries)) ++
      Node.optional "ordered" .bool ordered ++ Node.optional "weight" Number.node weight ++
      Node.optional "distance" Number.node distance))
  | .term text weight =>
    ("term-query", .record (Node.member "text" (Node.listOf Scalar.node text) ++
      Node.optional "weight" Number.node weight))
  | .text kind spec => (kind.name ++ "-query", spec.node)
  | .range spec => ("range-query", spec.node)
  | .collection uris => ("collection-query", .record (Node.member "uri" (Node.strings uris)))
  | .directory uris infinite =>
    ("directory-query", .record (Node.member "uri" (Node.strings uris) ++
      Node.optional "infinite" .bool infinite))
  | .document uris => ("document-query", .record (Node.member "uri" (Node.strings uris)))
  | .documentFragment query => ("document-fragment-query", Query.node query)
  | .properties query => ("properties-query", Query.node query)
  | .locksFragment query => ("locks-fragment-query", Query.node query)
  | .container spec inner =>
    ("container-query", .record (spec.entries ++ [Criteria.member inner]))
  | .geo kind spec => (kind.queryKey, spec.node)
  | .lsqt spec => ("lsqt-query", spec.node)
  | .axisComparison spec => ("period-compare-query", spec.node)
  | .periodComparison spec => ("period-range-query", spec.node)
termination_by structural c => c
/-- Queries as they are written. -/
def Query.nodes : List Query → List Node
  | [] => []
  | q :: rest => Query.node q :: Query.nodes rest
termination_by structural qs => qs
end

/-- Criteria as they are written. -/
def Criteria.node (c : Criteria) : Node := .named c.member.1 c.member.2

end SearchRequest
