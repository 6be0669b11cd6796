import SearchRequest.Document.Query.Read
import SearchRequest.Document.Query.Written

/-!
# Facets

A facet counts how the values of an index are distributed over the results.

* `Bucket` — a named part of a range; a computed bucket has bounds relative to an anchor.
* `Anchor` — a point of reference such as `now`, with values relative to it.
* `FacetFunctions` — the two functions of a library that computes a facet.
* `Facet` — a facet with its name.
-/

namespace SearchRequest

/-- A named part of a range. -/
structure Bucket where
  /-- The name. -/
  name : String
  /-- The label. -/
  label : String
  /-- What both bounds are relative to. -/
  anchor : Option String := none
  /-- The lower bound, which belongs to the bucket. -/
  ge : Option Scalar := none
  /-- What the lower bound is relative to. -/
  geAnchor : Option String := none
  /-- The upper bound, which does not belong to the bucket. -/
  lt : Option Scalar := none
  /-- What the upper bound is relative to. -/
  ltAnchor : Option String := none
  deriving BEq, DecidableEq

/-- A point of reference with values relative to it. -/
structure Anchor where
  /-- The point of reference. -/
  anchor : String
  /-- The values. -/
  value : List Scalar
  deriving BEq, DecidableEq

/-- The functions of a library that computes a facet. -/
structure FacetFunctions where
  /-- The function that is called first. -/
  start : LibraryFunction
  /-- The function that is called at the end. -/
  finish : LibraryFunction
  deriving BEq, DecidableEq

/-- A facet over the values of an index. -/
structure RangeFacet where
  /-- Whether the facet is calculated. -/
  facet : Bool
  /-- The datatype of the index. -/
  datatype : Option String := none
  /-- The collation of the index. -/
  collation : Option String := none
  /-- The index. -/
  index : IndexFields := {}
  /-- The buckets with fixed bounds. -/
  bucket : Option (List Bucket) := none
  /-- The buckets with computed bounds. -/
  computedBucket : Option (List Bucket) := none
  /-- Options. -/
  facetOption : Option (List String) := none
  deriving BEq, DecidableEq

/-- What a facet counts. -/
inductive FacetKind where
  /-- The collections of the results. -/
  | collection (facet : Bool) (facetOption : Option (List String))
  /-- What a library makes of the results. -/
  | custom (facet : Bool) (functions : FacetFunctions) (facetOption : Option (List String))
  /-- The values of an index. -/
  | range (facet : RangeFacet)
  deriving BEq, DecidableEq

/-- A facet with its name. -/
structure Facet where
  /-- The name. -/
  name : String
  /-- What it counts. -/
  kind : FacetKind
  deriving BEq, DecidableEq

namespace Bucket

/-- A bucket as it is written. -/
def node (b : Bucket) : Node :=
  .record (Node.member "name" (.string b.name) ++ Node.member "label" (.string b.label) ++
    Node.optional "anchor" .string b.anchor ++ Node.optional "ge" Scalar.node b.ge ++
    Node.optional "ge-anchor" .string b.geAnchor ++ Node.optional "lt" Scalar.node b.lt ++
    Node.optional "lt-anchor" .string b.ltAnchor)

/-- A bucket, read. -/
def decoder : Decoder Bucket :=
  Fields.record (mk <$> Fields.required "name" Decoder.string <*>
    Fields.required "label" Decoder.string <*>
    Fields.optional "anchor" Decoder.string <*>
    Fields.optional "ge" Scalar.decoder <*>
    Fields.optional "ge-anchor" Decoder.string <*>
    Fields.optional "lt" Scalar.decoder <*>
    Fields.optional "lt-anchor" Decoder.string)

end Bucket

namespace Anchor

/-- A point of reference as it is written. -/
def node (a : Anchor) : Node :=
  .record [("anchor", .string a.anchor), ("value", Node.listOf Scalar.node a.value)]

/-- A point of reference, read. -/
def decoder : Decoder Anchor :=
  Fields.record (mk <$> Fields.required "anchor" Decoder.string <*>
    Fields.required "value" (Decoder.list Scalar.decoder))

end Anchor

namespace FacetFunctions

/-- The functions, as entries of the record that holds them. -/
def entries (f : FacetFunctions) : List (String × Node) :=
  [("start-facet", f.start.node), ("finish-facet", f.finish.node)]

/-- The functions as they are written. -/
def node (f : FacetFunctions) : Node := .record f.entries

/-- The fields of the functions. -/
def fields : Fields FacetFunctions :=
  mk <$> Fields.required "start-facet" LibraryFunction.decoder <*>
    Fields.required "finish-facet" LibraryFunction.decoder

/-- The functions, read. -/
def decoder : Decoder FacetFunctions := fields.record

end FacetFunctions

namespace RangeFacet

/-- A facet over an index as it is written. -/
def node (r : RangeFacet) : Node :=
  .record (Node.member "facet" (.bool r.facet) ++ Node.optional "type" .string r.datatype ++
    Node.optional "collation" .string r.collation ++ r.index.entries ++
    Node.optional "bucket" (Node.listOf Bucket.node) r.bucket ++
    Node.optional "computed-bucket" (Node.listOf Bucket.node) r.computedBucket ++
    Node.optional "facet-option" Node.strings r.facetOption)

/-- The fields of a facet over an index beside those of the index. -/
def ownFields : Fields (IndexFields → RangeFacet) :=
  (fun facet datatype collation bucket computed options index =>
      ⟨facet, datatype, collation, index, bucket, computed, options⟩) <$>
    Fields.required "facet" Decoder.bool <*>
    Fields.optional "type" Decoder.string <*>
    Fields.optional "collation" Decoder.string <*>
    Fields.optional "bucket" (Decoder.list Bucket.decoder) <*>
    Fields.optional "computed-bucket" (Decoder.list Bucket.decoder) <*>
    Fields.optional "facet-option" Decoder.strings

/-- A facet over an index, read. -/
def decoder : Decoder RangeFacet := fun o d =>
  (ownFields.withOpenPart IndexFields.within o d).map fun (make, index) => make index

end RangeFacet

namespace FacetKind

/-- The key of a facet and what is written under it. -/
def member : FacetKind → String × Node
  | .collection facet options =>
    ("collection", .record (Node.member "facet" (.bool facet) ++
      Node.optional "facet-option" Node.strings options))
  | .custom facet functions options =>
    ("custom", .record (Node.member "facet" (.bool facet) ++ functions.entries ++
      Node.optional "facet-option" Node.strings options))
  | .range facet => ("range", facet.node)

/-- The cases of a facet. -/
def cases : List (String × Decoder FacetKind) :=
  [("collection", Fields.record (FacetKind.collection <$>
      Fields.required "facet" Decoder.bool <*>
      Fields.optional "facet-option" Decoder.strings)),
    ("custom", Fields.record (FacetKind.custom <$>
      Fields.required "facet" Decoder.bool <*> FacetFunctions.fields <*>
      Fields.optional "facet-option" Decoder.strings)),
    ("range", RangeFacet.decoder.as .range)]

end FacetKind

namespace Facet

/-- A facet as it is written: its name, and its key beside it. -/
def node (f : Facet) : Node :=
  .record (Node.member "name" (.string f.name) ++ [f.kind.member])

/-- A facet, read. -/
def decoder : Decoder Facet := fun o d =>
  ((Fields.required "name" Decoder.string).withOpenPart
    (Decoder.caseWithin FacetKind.cases) o d).map fun (name, kind) => ⟨name, kind⟩

end Facet

end SearchRequest
