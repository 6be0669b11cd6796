import SearchRequest.Build.Binding

/-!
# Terms, words and values

* `Build.datatype` — the datatype of an index.
* `Build.range` — values of an index that compare as told.
* `Build.term` — terms anywhere in a document.
* `Build.word`, `Build.value` — words or whole values of an index.
-/

namespace SearchRequest.Build

/-- The datatype of an index, with a collation for strings. -/
def datatype (name : String) (collation : Option String) : Build Datatype :=
  if name = "" then .error (.arity "datatype" "missing datatype")
  else .ok ⟨qualifyDatatype name, collation⟩

/-! ## Ranges -/

/-- What the arguments of `range` after the first add up to. -/
structure RangeParts where
  /-- The datatype and the collation. -/
  datatype : Option Datatype := none
  /-- Documents or properties. -/
  fragmentScope : Option FragmentScope := none
  /-- Options. -/
  options : Option (List String) := none
  /-- The comparison. -/
  operator : Option RangeOperator := none
  /-- The values so far. -/
  values : List Scalar := []
  /-- The name. -/
  name : Option String := none
  /-- Whether the index is to be the default of a search text. -/
  isDefault : Bool := false

namespace RangeParts

/-- The parts with another value. -/
def addValue (p : RangeParts) (a : Argument) : Build RangeParts := do
  let v ← a.asScalar "range"
  .ok { p with values := p.values ++ [v] }

/-- The parts with a text: a known datatype while there is none, else the token of a comparison
while there is none, else a value. -/
def addText (p : RangeParts) (s : String) : RangeParts :=
  match p.datatype, knownDatatype? s with
  | none, some name => { p with datatype := some ⟨name, none⟩ }
  | _, _ =>
    match p.operator, RangeOperator.ofToken? s with
    | none, some o => { p with operator := some o }
    | _, _ => { p with values := p.values ++ [.text s] }

/-- The parts with another argument. -/
def add (p : RangeParts) : Argument → Build RangeParts
  | .datatype d => if p.datatype.isNone then .ok { p with datatype := some d }
      else p.addValue (.datatype d)
  | .fragmentScope s => if p.fragmentScope.isNone then .ok { p with fragmentScope := some s }
      else p.addValue (.fragmentScope s)
  | .rangeOptions os => if p.options.isNone then .ok { p with options := some os }
      else p.addValue (.rangeOptions os)
  | .list items => do
    let vs ← items.mapM (Argument.asScalar "range")
    .ok { p with values := p.values ++ vs }
  | .text s => .ok (p.addText s)
  | .bind n => if p.name.isNone then .ok { p with name := some n } else p.addValue (.bind n)
  | .bindDefault => if p.isDefault then p.addValue .bindDefault
      else .ok { p with isDefault := true }
  | a => p.addValue a

/-- The body of a node over an index, without values and comparison. -/
def spec (p : RangeParts) (index : IndexedName) : RangeSpec :=
  { index := IndexFields.of index
    datatype := p.datatype.map Datatype.name
    collation := p.datatype.bind Datatype.collation
    fragmentScope := p.fragmentScope
    rangeOption := p.options }

/-- The criteria, if there are values; without a token the comparison is for equality. -/
def criteria? (p : RangeParts) (index : IndexedName) : Option Criteria :=
  if p.values.isEmpty then none
  else some (.range { p.spec index with
    value := some p.values, operator := some (p.operator.getD .eq) })

end RangeParts

/-- Values of an index that compare as told, or a binding of the index. -/
def range (args : List Argument) : Build Query :=
  match Argument.spliceSole args with
  | [] => .error (.arity "range" "missing index")
  | first :: rest => do
    let index ← first.asIndex "range"
    let p ← rest.foldlM RangeParts.add {}
    criteriaOrBinding "range" index (p.criteria? index) p.name
      (if p.isDefault then some (.range (p.spec index)) else none) (.range (p.spec index))

/-! ## Terms -/

/-- What the arguments of `term` add up to. -/
structure TermParts where
  /-- The texts so far. -/
  text : List Scalar := []
  /-- The weight. -/
  weight : Option Number := none

/-- The parts with another argument: the first weight or bare number is the weight, everything
else is text. -/
def TermParts.add (p : TermParts) (a : Argument) : Build TermParts :=
  match a, p.weight with
  | .weight n, none => .ok { p with weight := some n }
  | .number n, none => .ok { p with weight := some n }
  | .list items, _ => do
    let ss ← items.mapM (Argument.asScalar "term")
    .ok { p with text := p.text ++ ss }
  | a, _ => do
    let s ← a.asScalar "term"
    .ok { p with text := p.text ++ [s] }

/-- Terms anywhere in a document. -/
def term (args : List Argument) : Build Query := do
  let p ← (Argument.spliceSole args).foldlM TermParts.add {}
  .ok (.criteria (.term p.text p.weight))

/-! ## Words and values -/

/-- What the arguments of `word` or `value` after the first add up to. -/
structure TextParts where
  /-- Documents or properties. -/
  fragmentScope : Option FragmentScope := none
  /-- Options. -/
  options : Option (List String) := none
  /-- The weight. -/
  weight : Option Number := none
  /-- The texts so far. -/
  text : List Scalar := []
  /-- The name. -/
  name : Option String := none
  /-- Whether the index is to be the default of a search text. -/
  isDefault : Bool := false

namespace TextParts

/-- The parts with another text. -/
def addText (kind : TextKind) (p : TextParts) (a : Argument) : Build TextParts := do
  let s ← a.asScalar kind.name
  .ok { p with text := p.text ++ [s] }

/-- The parts with another argument. -/
def add (kind : TextKind) (p : TextParts) : Argument → Build TextParts
  | .fragmentScope s => if p.fragmentScope.isNone then .ok { p with fragmentScope := some s }
      else p.addText kind (.fragmentScope s)
  | .termOptions os => if p.options.isNone then .ok { p with options := some os }
      else p.addText kind (.termOptions os)
  | .weight n => if p.weight.isNone then .ok { p with weight := some n }
      else p.addText kind (.weight n)
  | .list items => do
    let ss ← items.mapM (Argument.asScalar kind.name)
    .ok { p with text := p.text ++ ss }
  | .bind n => if p.name.isNone then .ok { p with name := some n }
      else p.addText kind (.bind n)
  | .bindDefault => if p.isDefault then p.addText kind .bindDefault
      else .ok { p with isDefault := true }
  | a => p.addText kind a

/-- The body of a node over an index, without texts. -/
def spec (p : TextParts) (index : IndexedName) : TextSpec :=
  { index := IndexFields.of index
    fragmentScope := p.fragmentScope
    termOption := p.options
    weight := p.weight }

end TextParts

/-- Words or whole values of an index, or a binding of the index. -/
def text (kind : TextKind) (args : List Argument) : Build Query :=
  match Argument.spliceSole args with
  | [] => .error (.arity kind.name "missing index")
  | first :: rest => do
    let index ← first.asIndex kind.name
    let p ← rest.foldlM (TextParts.add kind) {}
    let criteria := if p.text.isEmpty then none
      else some (Criteria.text kind { p.spec index with text := some p.text })
    criteriaOrBinding kind.name index criteria p.name
      (if p.isDefault then some (.text kind (p.spec index)) else none)
      (.text kind (p.spec index))

/-- Words of an index. -/
def word (args : List Argument) : Build Query := text .word args

/-- Whole values of an index. -/
def value (args : List Argument) : Build Query := text .value args

end SearchRequest.Build
