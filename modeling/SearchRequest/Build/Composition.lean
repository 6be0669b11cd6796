import SearchRequest.Build.Error

/-!
# Putting queries together

* `Build.and`, `Build.or`, `Build.not`, `Build.andNot`, `Build.notIn`, `Build.boost`, `Build.near`
  — queries made of queries.
* `Build.documentFragment`, `Build.properties`, `Build.locksFragment` — a query for one kind of
  fragment.
-/

namespace SearchRequest.Build

/-- What the arguments of `and` add up to. -/
structure AndParts where
  /-- The queries so far. -/
  queries : List Query := []
  /-- Whether order matters. -/
  ordered : Option Bool := none

namespace AndParts

/-- The parts with another query. -/
def addQuery (p : AndParts) (combinator : String) (a : Argument) : Build AndParts := do
  let q ← a.asQuery combinator
  .ok { p with queries := p.queries ++ [q] }

/-- The parts with another argument: the first truth value or order mark says whether order
matters, everything else is a query. -/
def add (p : AndParts) (a : Argument) : Build AndParts :=
  match a, p.ordered with
  | .ordered b, none => .ok { p with ordered := some b }
  | .bool b, none => .ok { p with ordered := some b }
  | a, _ => p.addQuery "and" a

end AndParts

/-- All of the queries match; a truth value says whether they must match in order. -/
def and (args : List Argument) : Build Query := do
  let p ← (Argument.flatten (Argument.spliceSole args)).foldlM AndParts.add {}
  .ok (.criteria (.and p.queries p.ordered))

/-- Any of the queries matches. -/
def or (args : List Argument) : Build Query := do
  let queries ← (Argument.flatten (Argument.spliceSole args)).mapM (Argument.asQuery "or")
  .ok (.criteria (.or queries))

/-- The query does not match. -/
def not (q : Query) : Query := .criteria (.not q)

/-- Exactly two queries. -/
def pair (combinator : String) (args : List Argument) : Build (Query × Query) :=
  match Argument.spliceSole args with
  | [first, second] => do
    let first ← first.asQuery combinator
    let second ← second.asQuery combinator
    .ok (first, second)
  | args =>
    let count := String.ofList (Decimal.digits args.length)
    .error (.arity combinator
      (if args.length < 2 then "requires two queries, got " ++ count
      else "takes exactly two queries, got " ++ count))

/-- The first query matches and the second does not. -/
def andNot (args : List Argument) : Build Query := do
  let (positive, negative) ← pair "and_not" args
  .ok (.criteria (.andNot positive negative))

/-- The first query matches where the second does not. -/
def notIn (args : List Argument) : Build Query := do
  let (positive, negative) ← pair "not_in" args
  .ok (.criteria (.notIn positive negative))

/-- The first query matches; the second makes it more relevant. -/
def boost (args : List Argument) : Build Query := do
  let (matching, boosting) ← pair "boost" args
  .ok (.criteria (.boost matching boosting))

/-- What the arguments of `near` add up to. -/
structure NearParts where
  /-- The queries so far. -/
  queries : List Query := []
  /-- Whether order matters. -/
  ordered : Option Bool := none
  /-- The weight. -/
  weight : Option Number := none
  /-- The distance. -/
  distance : Option Number := none

namespace NearParts

/-- The parts with another query. -/
def addQuery (p : NearParts) (a : Argument) : Build NearParts := do
  let q ← a.asQuery "near"
  .ok { p with queries := p.queries ++ [q] }

/-- The parts with another argument: an order mark, a weight and a bare number, which is the
distance, count the first time they come; everything else is a query. -/
def add (p : NearParts) : Argument → Build NearParts
  | .ordered b => if p.ordered.isNone then .ok { p with ordered := some b }
      else p.addQuery (.ordered b)
  | .weight n => if p.weight.isNone then .ok { p with weight := some n }
      else p.addQuery (.weight n)
  | .number n => if p.distance.isNone then .ok { p with distance := some n }
      else p.addQuery (.number n)
  | a => p.addQuery a

end NearParts

/-- The queries match within a distance of each other. -/
def near (args : List Argument) : Build Query := do
  let p ← (Argument.flatten (Argument.spliceSole args)).foldlM NearParts.add {}
  .ok (.criteria (.near p.queries p.ordered p.weight p.distance))

/-- The query matches in document fragments. -/
def documentFragment (q : Query) : Query := .criteria (.documentFragment q)

/-- The query matches in the properties of documents. -/
def properties (q : Query) : Query := .criteria (.properties q)

/-- The query matches in the locks of documents. -/
def locksFragment (q : Query) : Query := .criteria (.locksFragment q)

end SearchRequest.Build
