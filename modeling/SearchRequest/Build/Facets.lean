import SearchRequest.Build.Names

/-!
# Facets and buckets

* `Build.libraryName`, `Build.libraryFunction` — a library and its functions, by its file name.
* `Build.facetOptions`, `Build.calculateFunction`, `Build.anchor` — what a facet may be given.
* `Build.bucket` — a bucket from a comparison, with fixed or computed bounds.
* `Build.facet` — a facet from a name, a source, or both.
-/

namespace SearchRequest.Build

/-- Options of a facet, at least one. -/
def facetOptions (options : List String) : Build Argument :=
  if options.isEmpty then .error (.arity "facet_options" "must specify at least one option")
  else .ok (.facetOptions options)

/-- A library file's name without its extension. -/
def libraryName (file : String) : Build String :=
  match libraryName? file with
  | some name => .ok name
  | none => .error (.missingExtension file)

/-- The reference to a function of a library file. -/
def libraryFunction (root : LibraryRoot) (apply file : String) : Build LibraryFunction :=
  match root.function? apply file with
  | some f => .ok f
  | none => .error (.missingExtension file)

/-- The functions of a library file that compute a facet. -/
def calculateFunction (file : String) : Build FacetFunctions := do
  let start ← libraryFunction .query "start-facet" file
  let finish ← libraryFunction .query "finish-facet" file
  .ok ⟨start, finish⟩

/-- A point of reference with one to three values. -/
def anchor (args : List Argument) : Build Anchor :=
  match Argument.spliceSole args with
  | name :: v :: rest =>
    if rest.length ≤ 2 then do
      let name ← name.asText "anchor"
      let values ← (v :: rest).mapM (Argument.asScalar "anchor")
      .ok ⟨name, values⟩
    else .error (.arity "anchor" "must have the anchor name and one to three values")
  | _ => .error (.arity "anchor" "must have the anchor name and one to three values")

/-! ## Buckets -/

/-- The two comparisons of a bucket. -/
inductive Comparator where
  /-- Less than. -/
  | less
  /-- Greater than. -/
  | greater
  deriving DecidableEq, Repr

/-- The comparison that a literal spells. -/
def Comparator.ofScalar? : Scalar → Option Comparator
  | .text "<" => some .less
  | .text ">" => some .greater
  | _ => none

/-- A bucket as it is built: with fixed or with computed bounds. -/
inductive BuiltBucket where
  /-- With fixed bounds. -/
  | literal (b : Bucket)
  /-- With bounds relative to a point of reference. -/
  | computed (b : Bucket)
  deriving BEq

/-- A bucket as an argument. -/
def BuiltBucket.argument : BuiltBucket → Argument
  | .literal b => .bucket b
  | .computed b => .computedBucket b

/-- The bucket with one bound, from the bound and a comparison in either order: a comparison before
the bound compares the bucket with it, one after the bound compares the bound with the bucket. -/
def oneBound (b : Bucket) (v w : Scalar) : Option Bucket :=
  match Comparator.ofScalar? v, Comparator.ofScalar? w with
  | some .less, _ => some { b with lt := some w }
  | _, some .greater => some { b with lt := some v }
  | some .greater, _ => some { b with ge := some w }
  | _, some .less => some { b with ge := some v }
  | _, _ => none

/-- A bound with what it is relative to. -/
structure Bound where
  /-- What the bound is relative to. -/
  anchor : Option String := none
  /-- The bound. -/
  value : Scalar

/-- The bucket with two bounds, from a comparison between them. -/
def twoBounds (b : Bucket) (v : Bound) (comparison : Scalar) (w : Bound) : Option Bucket :=
  match Comparator.ofScalar? comparison with
  | some .less =>
    some { b with
      ge := some v.value
      geAnchor := v.anchor
      lt := some w.value
      ltAnchor := w.anchor }
  | some .greater =>
    some { b with
      ge := some w.value
      geAnchor := w.anchor
      lt := some v.value
      ltAnchor := v.anchor }
  | none => none

/-- The bound that an argument stands for: a literal, or the first value of a point of
reference. -/
def bound? : Argument → Option Bound
  | .anchor a => a.value.head?.map fun v => ⟨some a.anchor, v⟩
  | a => a.scalar?.map fun v => ⟨none, v⟩

/-- The bucket with the bounds that the values of a point of reference give. -/
def boundsOfAnchor (b : Bucket) : List Scalar → Option Bucket
  | [v, w] => oneBound b v w
  | v :: comparison :: w :: _ => twoBounds b ⟨none, v⟩ comparison ⟨none, w⟩
  | _ => none

/-- The bucket with the bounds that the arguments after the name give. -/
def bucketBounds (b : Bucket) : List Argument → Option BuiltBucket
  | [.anchor a] =>
    (boundsOfAnchor { b with anchor := some a.anchor } a.value).map .computed
  | [v, w] => do
    let v ← v.scalar?
    let w ← w.scalar?
    (oneBound b v w).map .literal
  | [v, comparison, w] => do
    let v ← bound? v
    let comparison ← comparison.scalar?
    let w ← bound? w
    let b ← twoBounds b v comparison w
    some (if v.anchor.isSome || w.anchor.isSome then .computed b else .literal b)
  | _ => none

/-- A bucket from its name, which is also its label, and its bounds: a point of reference whose
values are the bounds, a bound and a comparison, or two bounds around a comparison. -/
def bucket (args : List Argument) : Build BuiltBucket :=
  match Argument.spliceSole args with
  | .text name :: rest =>
    match bucketBounds { name := name, label := name } rest with
    | some b => .ok b
    | none => .error .malformedBucket
  | _ => .error .malformedBucket

/-! ## Facets -/

/-- Where a facet takes its values from. -/
inductive FacetSource where
  /-- From an index. -/
  | index (i : IndexedName)
  /-- From the collections. -/
  | collection
  deriving BEq

/-- The source that an argument after the name of a facet stands for. -/
def FacetSource.ofArgument? : Argument → Option FacetSource
  | .text name => some (.index (.jsonProperty name))
  | .index i => some (.index i)
  | .query (.index .collection) => some .collection
  | _ => none

/-- The name that a source offers. -/
def FacetSource.requireName : FacetSource → Build String
  | .index i => i.requireName
  | .collection => .error (.missingConstraintName "collection")

/-- What the arguments after the name and the source add up to. -/
structure FacetParts where
  /-- The datatype. -/
  datatype : Option Datatype := none
  /-- Options. -/
  options : Option (List String) := none
  /-- The functions that compute the facet. -/
  functions : Option FacetFunctions := none
  /-- The buckets with fixed bounds so far. -/
  buckets : List Bucket := []
  /-- The buckets with computed bounds so far. -/
  computed : List Bucket := []

/-- The parts with another argument; all but buckets count the first time they come. -/
def FacetParts.add (p : FacetParts) : Argument → Build FacetParts
  | .datatype d => if p.datatype.isNone then .ok { p with datatype := some d }
      else Argument.refuse "facet" (.datatype d)
  | .facetOptions os => if p.options.isNone then .ok { p with options := some os }
      else Argument.refuse "facet" (.facetOptions os)
  | .calculateFunction f => if p.functions.isNone then .ok { p with functions := some f }
      else Argument.refuse "facet" (.calculateFunction f)
  | .bucket b => .ok { p with buckets := p.buckets ++ [b] }
  | .computedBucket b => .ok { p with computed := p.computed ++ [b] }
  | a => Argument.refuse "facet" a

/-- A list that is absent when it is empty. -/
def nonempty {α : Type} (as : List α) : Option (List α) := if as.isEmpty then none else some as

/-- What a facet counts, from its source and the other parts. -/
def FacetParts.kind (p : FacetParts) : FacetSource → FacetKind
  | .collection => .collection true p.options
  | .index i =>
    match p.functions with
    | some functions => .custom true functions p.options
    | none =>
      .range {
        facet := true
        datatype := p.datatype.map Datatype.name
        collation := p.datatype.bind Datatype.collation
        index := IndexFields.of i
        bucket := nonempty p.buckets
        computedBucket := nonempty p.computed
        facetOption := p.options }

/-- The name, the source, and the other arguments of a facet.  A text at the start is the name;
without a source after it, it names the property to read as well. -/
def facetHead : List Argument → Build (Option String × FacetSource × List Argument)
  | [] => .error (.arity "facet" "missing facet name or index")
  | [.text name] => .ok (some name, .index (.jsonProperty name), [])
  | .text name :: second :: rest =>
    match FacetSource.ofArgument? second with
    | some source => .ok (some name, source, rest)
    | none => .ok (some name, .index (.jsonProperty name), second :: rest)
  | first :: rest =>
    match FacetSource.ofArgument? first with
    | some source => .ok (none, source, rest)
    | none => Argument.refuse "facet" first

/-- A facet from a name, a source, or both, and then a datatype, options, functions and buckets in
any order.  Without a name the facet has the name of its source. -/
def facet (args : List Argument) : Build Facet := do
  let (name, source, rest) ← facetHead (Argument.spliceSole args)
  let p ← rest.foldlM FacetParts.add {}
  let name ← match name with
    | some name => .ok name
    | none => source.requireName
  .ok ⟨name, p.kind source⟩

end SearchRequest.Build
