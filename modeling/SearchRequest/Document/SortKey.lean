import SearchRequest.Document.Index

/-!
# Sort keys

* `Direction` — upwards or downwards.
* `SortKey` — an index or the relevance to sort by.
-/

namespace SearchRequest

/-- The direction of a sort. -/
inductive Direction where
  /-- The smallest first. -/
  | ascending
  /-- The largest first. -/
  | descending
  deriving DecidableEq, Repr

namespace Direction

/-- The name of a direction. -/
def name : Direction → String
  | .ascending => "ascending"
  | .descending => "descending"

/-- Both directions. -/
def all : List Direction := [.ascending, .descending]

/-- The direction with a name. -/
def ofName? (text : String) : Option Direction := all.find? fun d => d.name = text

/-- Whether the smallest comes first. -/
def isAscending : Direction → Bool
  | .ascending => true
  | .descending => false

/-- A direction as it is written. -/
def node (d : Direction) : Node := .string d.name

/-- A direction, read. -/
def decoder : Decoder Direction := Decoder.oneOfNames (all.map fun d => (d.name, d))

end Direction

/-- What the results are sorted by. -/
structure SortKey where
  /-- The index. -/
  index : IndexFields := {}
  /-- Present in a sort by relevance, with the method of scoring if one is named. -/
  score : Option (Option String) := none
  /-- The direction. -/
  direction : Option Direction := none
  /-- The datatype of the index. -/
  datatype : Option String := none
  /-- The collation of the index. -/
  collation : Option String := none
  deriving BEq, DecidableEq

namespace SortKey

/-- Whether the results are sorted by relevance. -/
def isScore (k : SortKey) : Bool := k.score.isSome

/-- The method of scoring as it is written: `null` for the default one. -/
def scoreNode : Option String → Node
  | none => .null
  | some method => .string method

/-- A sort key as it is written. -/
def node (k : SortKey) : Node :=
  .record (k.index.entries ++ Node.optional "score" scoreNode k.score ++
    Node.optional "direction" Direction.node k.direction ++
    Node.optional "type" .string k.datatype ++ Node.optional "collation" .string k.collation)

/-- The method of scoring, read; `null` is kept as the default method. -/
def scoreDecoder : Decoder (Option (Option String)) := fun o d =>
  (Decoder.optional Decoder.string o d).map some

/-- The fields of a sort key beside those of the index. -/
def ownFields : Fields (IndexFields → SortKey) :=
  (fun score direction datatype collation index =>
      ⟨index, score, direction, datatype, collation⟩) <$>
    Fields.defaulted "score" scoreDecoder none <*>
    Fields.optional "direction" Direction.decoder <*>
    Fields.optional "type" Decoder.string <*>
    Fields.optional "collation" Decoder.string

/-- A sort key, read. -/
def decoder : Decoder SortKey := fun o d =>
  (ownFields.withOpenPart IndexFields.within o d).map fun (make, index) => make index

end SortKey

end SearchRequest
