import SearchRequest.Build.Error

/-!
# Times and periods

* `Build.lsqt` — documents of a temporal collection as of a time.
* `Build.period` — a span of time.
* `Build.periodCompare`, `Build.periodRange` — comparisons of temporal axes.
-/

namespace SearchRequest

/-- An argument that must be a time: a text, or an instant that stands for its text. -/
def Argument.asTimestamp (combinator : String) : Argument → Build String
  | .text s => .ok s
  | .instant t => .ok t.millis
  | a => refuse combinator a

namespace Build

/-- What the arguments of `lsqt` add up to. -/
def addToLsqt (l : LsqtSpec) : Argument → Build LsqtSpec
  | .weight n => if l.weight.isNone then .ok { l with weight := some n }
      else Argument.refuse "lsqt_query" (.weight n)
  | .number n => if l.weight.isNone then .ok { l with weight := some n }
      else Argument.refuse "lsqt_query" (.number n)
  | .text s => if l.timestamp.isNone then .ok { l with timestamp := some s }
      else Argument.refuse "lsqt_query" (.text s)
  | .instant t => if l.timestamp.isNone then .ok { l with timestamp := some t.millis }
      else Argument.refuse "lsqt_query" (.instant t)
  | .temporalOptions os =>
      if l.temporalOption.isNone then .ok { l with temporalOption := some os }
      else Argument.refuse "lsqt_query" (.temporalOptions os)
  | a => Argument.refuse "lsqt_query" a

/-- Documents of a temporal collection as of the last stable time or of an earlier one.  After the
collection come a weight or bare number, a time, and options, in any order. -/
def lsqt (args : List Argument) : Build Query :=
  match Argument.spliceSole args with
  | [] => .error (.arity "lsqt_query" "missing temporal collection")
  | .text collection :: rest => do
    let l ← rest.foldlM addToLsqt { temporalCollection := collection }
    .ok (.criteria (.lsqt l))
  | a :: _ => Argument.refuse "lsqt_query" a

/-- A period from a start to an optional end. -/
def period (args : List Argument) : Build Period :=
  match Argument.spliceSole args with
  | [] => .error (.arity "period" "must have at least one datetime")
  | [start] => do
    let start ← start.asTimestamp "period"
    .ok ⟨start, none⟩
  | start :: finish :: rest => do
    let start ← start.asTimestamp "period"
    let finish ← finish.asTimestamp "period"
    match rest with
    | [] => .ok ⟨start, some finish⟩
    | extra :: _ => Argument.refuse "period" extra

/-- The options that may follow the operands of a comparison, and nothing after them. -/
def temporalTail (combinator : String) : List Argument → Build (Option (List String))
  | [] => .ok none
  | [.temporalOptions os] => .ok (some os)
  | .temporalOptions _ :: extra :: _ => Argument.refuse combinator extra
  | a :: _ => Argument.refuse combinator a

/-- A comparison of two temporal axes. -/
def periodCompare (args : List Argument) : Build Query :=
  match Argument.spliceSole args with
  | axis1 :: operator :: axis2 :: rest => do
    let axis1 ← axis1.asText "period_compare"
    let operator ← operator.asText "period_compare"
    let axis2 ← axis2.asText "period_compare"
    let options ← temporalTail "period_compare" rest
    .ok (.criteria (.axisComparison ⟨axis1, operator, axis2, options⟩))
  | _ => .error (.arity "period_compare" "requires two axes and an operator")

/-- The axes of a comparison: a text or a list of texts. -/
def axes : Argument → Build (List String)
  | .list items => items.mapM (Argument.asText "period_range")
  | a => do
    let axis ← a.asText "period_range"
    .ok [axis]

/-- An argument that must be a period. -/
def asPeriod : Argument → Build Period
  | .period p => .ok p
  | a => Argument.refuse "period_range" a

/-- The periods of a comparison: one, or a list of them. -/
def periods : Argument → Build (List Period)
  | .list items => items.mapM asPeriod
  | a => do
    let p ← asPeriod a
    .ok [p]

/-- A comparison of temporal axes with periods. -/
def periodRange (args : List Argument) : Build Query :=
  match Argument.spliceSole args with
  | axis :: operator :: period :: rest => do
    let axis ← axes axis
    let operator ← operator.asText "period_range"
    let period ← periods period
    let options ← temporalTail "period_range" rest
    .ok (.criteria (.periodComparison ⟨axis, operator, period, options⟩))
  | _ => .error (.arity "period_range" "requires an axis, an operator, and a period")

end Build

end SearchRequest
