import SearchRequest.Document.Geography
import SearchRequest.Document.Library

/-!
# Queries

* `TextSpec`, `RangeSpec`, `ContainerSpec` and the other bodies — what a node of each kind holds.
* `Query` and `Criteria` — a query is criteria, a named constraint for a search text, a default
  for the terms of a search text that name no constraint, or the bare declaration of an index;
  criteria may hold further queries.
* `Query.same` — equality with numbers compared as numbers.
-/

namespace SearchRequest

/-! ## Bodies -/

/-- Whether single words or whole values are matched. -/
inductive TextKind where
  /-- Words. -/
  | word
  /-- Whole values. -/
  | value
  deriving DecidableEq, Repr

/-- The name of the combinator that builds nodes of a kind, which is also their key. -/
def TextKind.name : TextKind → String
  | .word => "word"
  | .value => "value"

/-- What words or values are matched, and where. -/
structure TextSpec where
  /-- The index. -/
  index : IndexFields := {}
  /-- Documents or properties. -/
  fragmentScope : Option FragmentScope := none
  /-- Options. -/
  termOption : Option (List String) := none
  /-- The weight. -/
  weight : Option Number := none
  /-- The texts; absent in a constraint. -/
  text : Option (List Scalar) := none
  deriving BEq, DecidableEq

/-- What values of an index are compared, and how. -/
structure RangeSpec where
  /-- The index. -/
  index : IndexFields := {}
  /-- The datatype of the index. -/
  datatype : Option String := none
  /-- The collation of the index. -/
  collation : Option String := none
  /-- Documents or properties. -/
  fragmentScope : Option FragmentScope := none
  /-- Options. -/
  rangeOption : Option (List String) := none
  /-- The values; absent in a constraint. -/
  value : Option (List Scalar) := none
  /-- The comparison; absent in a constraint. -/
  operator : Option RangeOperator := none
  deriving BEq, DecidableEq

/-- A property or element that holds other nodes. -/
structure ContainerSpec where
  /-- The property or element. -/
  index : IndexFields := {}
  /-- Documents or properties. -/
  fragmentScope : Option FragmentScope := none
  deriving BEq, DecidableEq

/-- Documents of a temporal collection as of a time. -/
structure LsqtSpec where
  /-- The temporal collection. -/
  temporalCollection : String
  /-- The weight. -/
  weight : Option Number := none
  /-- The time, unless it is the last stable one. -/
  timestamp : Option String := none
  /-- Options. -/
  temporalOption : Option (List String) := none
  deriving BEq, DecidableEq

/-- A span of time; without an end it is a single instant. -/
structure Period where
  /-- The start. -/
  start : String
  /-- The end. -/
  finish : Option String := none
  deriving BEq, DecidableEq, Repr

/-- A comparison of two temporal axes. -/
structure AxisComparison where
  /-- The first axis. -/
  axis1 : String
  /-- The comparison. -/
  operator : String
  /-- The second axis. -/
  axis2 : String
  /-- Options. -/
  temporalOption : Option (List String) := none
  deriving BEq, DecidableEq

/-- A comparison of temporal axes with periods. -/
structure PeriodComparison where
  /-- The axes. -/
  axis : List String
  /-- The comparison. -/
  operator : String
  /-- The periods. -/
  period : List Period
  /-- Options. -/
  temporalOption : Option (List String) := none
  deriving BEq, DecidableEq

/-- A constraint whose terms are parsed by a library function. -/
structure CustomConstraint where
  /-- The function that parses the terms. -/
  parse : LibraryFunction
  /-- Whether the constraint is also a facet. -/
  facet : Bool
  /-- Options. -/
  termOption : Option (List String) := none
  deriving BEq, DecidableEq

/-! ## Nodes that hold no query -/

/-- What a constraint constrains. -/
inductive ConstraintSpec where
  /-- The values of an index. -/
  | range (spec : RangeSpec)
  /-- The words or values of an index. -/
  | text (kind : TextKind) (spec : TextSpec)
  /-- The collection, whose names are matched without a part at their start. -/
  | collection (start : Option String)
  /-- A property or element. -/
  | container (spec : ContainerSpec)
  /-- The places of a geospatial index. -/
  | geo (kind : GeoKind) (spec : GeoSpec)
  /-- Whatever a library function makes of it. -/
  | custom (spec : CustomConstraint)
  deriving BEq, DecidableEq

/-- A constraint with the name by which a search text refers to it. -/
structure Constraint where
  /-- The name. -/
  name : String
  /-- What it constrains. -/
  spec : ConstraintSpec
  deriving BEq, DecidableEq

/-- What the terms of a search text mean that name no constraint. -/
inductive DefaultSpec where
  /-- Values of an index. -/
  | range (spec : RangeSpec)
  /-- Words or values of an index. -/
  | text (kind : TextKind) (spec : TextSpec)
  deriving BEq, DecidableEq

/-- An index without criteria, for a facet to read. -/
inductive IndexDeclaration where
  /-- The names of collections. -/
  | collection
  /-- A geospatial index. -/
  | geo (kind : GeoKind) (spec : GeoSpec)
  deriving BEq, DecidableEq

/-! ## Queries and criteria -/

mutual
/-- A query. -/
inductive Query where
  /-- Criteria. -/
  | criteria (c : Criteria)
  /-- A named constraint. -/
  | constraint (c : Constraint)
  /-- A default for terms without a constraint. -/
  | default (spec : DefaultSpec)
  /-- The declaration of an index. -/
  | index (declaration : IndexDeclaration)

/-- Criteria that a document meets or not. -/
inductive Criteria where
  /-- All of the queries match, in this order if so marked. -/
  | and (queries : List Query) (ordered : Option Bool)
  /-- Any of the queries matches. -/
  | or (queries : List Query)
  /-- The query does not match. -/
  | not (query : Query)
  /-- One query matches and another does not. -/
  | andNot (positive negative : Query)
  /-- One query matches where another does not. -/
  | notIn (positive negative : Query)
  /-- One query matches; another makes it more relevant. -/
  | boost (matching boosting : Query)
  /-- The queries match within a distance of each other. -/
  | near (queries : List Query) (ordered : Option Bool) (weight distance : Option Number)
  /-- Any of the terms occurs. -/
  | term (text : List Scalar) (weight : Option Number)
  /-- Words or values of an index match. -/
  | text (kind : TextKind) (spec : TextSpec)
  /-- Values of an index compare as told. -/
  | range (spec : RangeSpec)
  /-- The document is in one of the collections. -/
  | collection (uris : List String)
  /-- The document is in one of the directories, or below one if so marked. -/
  | directory (uris : List String) (infinite : Option Bool)
  /-- The document has one of the addresses. -/
  | document (uris : List String)
  /-- The query matches in document fragments. -/
  | documentFragment (query : Query)
  /-- The query matches in the properties. -/
  | properties (query : Query)
  /-- The query matches in the locks. -/
  | locksFragment (query : Query)
  /-- The criteria are met inside a property or element. -/
  | container (spec : ContainerSpec) (inner : Criteria)
  /-- Places of a geospatial index are in a region. -/
  | geo (kind : GeoKind) (spec : GeoSpec)
  /-- The document is in a temporal collection as of a time. -/
  | lsqt (spec : LsqtSpec)
  /-- Two temporal axes compare as told. -/
  | axisComparison (spec : AxisComparison)
  /-- Temporal axes compare with periods as told. -/
  | periodComparison (spec : PeriodComparison)
end

instance : Inhabited Criteria := ⟨.or []⟩
instance : Inhabited Query := ⟨.criteria (.or [])⟩

/-! ## Equality -/

mutual
/-- Equality of queries, with numbers compared as numbers. -/
def Query.same : Query → Query → Bool
  | .criteria c, .criteria d => Criteria.same c d
  | .constraint c, .constraint d => c == d
  | .default s, .default t => s == t
  | .index d, .index e => d == e
  | _, _ => false
/-- Equality of criteria, with numbers compared as numbers. -/
def Criteria.same : Criteria → Criteria → Bool
  | .and qs o, .and rs p => Query.sameAll qs rs && o == p
  | .or qs, .or rs => Query.sameAll qs rs
  | .not q, .not r => Query.same q r
  | .andNot q r, .andNot s t => Query.same q s && Query.same r t
  | .notIn q r, .notIn s t => Query.same q s && Query.same r t
  | .boost q r, .boost s t => Query.same q s && Query.same r t
  | .near qs o w d, .near rs p x e => Query.sameAll qs rs && o == p && w == x && d == e
  | .term t w, .term u x => t == u && w == x
  | .text k s, .text l t => k == l && s == t
  | .range s, .range t => s == t
  | .collection us, .collection vs => us == vs
  | .directory us i, .directory vs j => us == vs && i == j
  | .document us, .document vs => us == vs
  | .documentFragment q, .documentFragment r => Query.same q r
  | .properties q, .properties r => Query.same q r
  | .locksFragment q, .locksFragment r => Query.same q r
  | .container s c, .container t d => s == t && Criteria.same c d
  | .geo k s, .geo l t => k == l && s == t
  | .lsqt s, .lsqt t => s == t
  | .axisComparison s, .axisComparison t => s == t
  | .periodComparison s, .periodComparison t => s == t
  | _, _ => false
/-- Equality of lists of queries. -/
def Query.sameAll : List Query → List Query → Bool
  | [], [] => true
  | q :: qs, r :: rs => Query.same q r && Query.sameAll qs rs
  | _, _ => false
end

instance : BEq Query := ⟨Query.same⟩
instance : BEq Criteria := ⟨Criteria.same⟩

/-- The name that a query binds, if it is a named constraint. -/
def Query.constraintName : Query → Option String
  | .constraint c => some c.name
  | _ => none

/-- The criteria of a query, if it has any. -/
def Query.criteria? : Query → Option Criteria
  | .criteria c => some c
  | _ => none

end SearchRequest
