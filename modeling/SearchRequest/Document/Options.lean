import SearchRequest.Document.Scalar

/-!
# Request options

* `Options` — the options that tune how the server runs a request.
* `Options.parameterOf?` — the request parameter that an option becomes.
* `Options.ofConfig` — the options of a configuration, other keys being dropped.
* `Options.parameters` — the options as request parameters.
-/

namespace SearchRequest

/-- The options that tune how the server runs a request. -/
structure Options where
  /-- Search options. -/
  search : Option (List String) := none
  /-- The weight of quality in relevance. -/
  weight : Option Number := none
  /-- The forests to search. -/
  forestNames : Option (List String) := none
  /-- Whether similar documents are returned with each result. -/
  similarDocs : Option Bool := none
  /-- Whether metrics are returned. -/
  metrics : Option Bool := none
  /-- Whether the query plan is returned. -/
  queryPlan : Option Bool := none
  /-- Whether the server reports how it runs the request. -/
  debug : Option Bool := none
  /-- How many threads may work on the request. -/
  concurrencyLevel : Option UInt32 := none
  /-- The categories of document content to return. -/
  categories : Option (List String) := none
  /-- The transaction in which the request runs. -/
  txid : Option String := none
  deriving BEq, DecidableEq

namespace Options

/-- The keys of the options, each with the request parameter that it becomes. -/
def keys : List (String × String) := [
  ("search", "search-option"), ("weight", "quality-weight"), ("forestNames", "forest-names"),
  ("similarDocs", "return-similar"), ("metrics", "return-metrics"),
  ("queryPlan", "return-plan"), ("debug", "debug"), ("concurrencyLevel", "concurrency-level"),
  ("categories", "categories"), ("txid", "txid")]

/-- The request parameter that an option becomes. -/
def parameterOf? (key : String) : Option String := (keys.find? fun k => k.1 = key).map Prod.snd

/-- Whether a key is one of an option. -/
def isKey (key : String) : Bool := (parameterOf? key).isSome

/-- Whether no option is set. -/
def isEmpty (o : Options) : Bool := o == {}

/-- Options as they are written. -/
def node (o : Options) : Node :=
  .record (Node.optional "search" Node.strings o.search ++
    Node.optional "weight" Number.node o.weight ++
    Node.optional "forestNames" Node.strings o.forestNames ++
    Node.optional "similarDocs" .bool o.similarDocs ++
    Node.optional "metrics" .bool o.metrics ++
    Node.optional "queryPlan" .bool o.queryPlan ++
    Node.optional "debug" .bool o.debug ++
    Node.optional "concurrencyLevel" (fun n : UInt32 => .number (Number.ofInt n.toNat))
      o.concurrencyLevel ++
    Node.optional "categories" Node.strings o.categories ++
    Node.optional "txid" .string o.txid)

/-- A list of strings, for which a single string may stand. -/
def oneOrMany : Decoder (List String) :=
  Decoder.firstOf [fun o d => (Decoder.string o d).map fun s => [s], Decoder.strings]

/-- Options, read. -/
def decoder : Decoder Options :=
  Fields.record (mk <$> Fields.optional "search" oneOrMany <*>
    Fields.optional "weight" Decoder.number <*>
    Fields.optional "forestNames" oneOrMany <*>
    Fields.optional "similarDocs" Decoder.bool <*>
    Fields.optional "metrics" Decoder.bool <*>
    Fields.optional "queryPlan" Decoder.bool <*>
    Fields.optional "debug" Decoder.bool <*>
    Fields.optional "concurrencyLevel" Decoder.uint32 <*>
    Fields.optional "categories" oneOrMany <*>
    Fields.optional "txid" Decoder.string)

/-- The options of a configuration, keys of no option being dropped. -/
def ofConfig (config : ValueMap) : Except ReadError Options :=
  decoder.readJson (.object (config.filter isKey).entries)

/-- The options as request parameters, sorted by parameter. -/
def parameters (o : Options) : ValueMap :=
  match o.node.toJson with
  | .object entries =>
    ValueMap.ofJsonEntries (entries.filterMap fun (key, j) => (parameterOf? key).map (·, j))
  | _ => ValueMap.empty

end Options

end SearchRequest
