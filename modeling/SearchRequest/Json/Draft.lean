import SearchRequest.Json.Basic

/-!
# What a JSON text holds, faults included

Reading a text never fails by itself: it yields a `Draft`, a tree in which each fault stands where
it was met, and which ends at the first fault that leaves no way to go on.  Whether a fault counts,
and which of two comes first, is then up to who reads the draft: a part that nobody asks for is
skipped, and a skipped number may be too large and a skipped string may hold half a surrogate pair.

* `Fault` — the two kinds of fault.
* `Flaw` — what three ways of looking at a faulty leaf meet.
* `Draft` — the tree.
* `Draft.skipFault` — the fault that skipping a part meets.
* `Draft.settle` — the whole part as a JSON tree, or the first fault in it.
* `Json.draft` — a JSON tree as a draft without a fault.
-/

namespace SearchRequest

/-- The two kinds of fault in a text. -/
inductive Fault where
  /-- The text is not JSON at this point, or holds what cannot be represented. -/
  | malformed
  /-- The text ends too early. -/
  | truncated
  deriving DecidableEq, Repr

/-- A leaf that cannot be taken as a value. -/
structure Flaw where
  /-- What taking the leaf as a value meets. -/
  wanted : Fault
  /-- What skipping the leaf meets, if anything. -/
  skipped : Option Fault
  /-- What looking for the name of a case meets. -/
  asCase : Fault
  deriving DecidableEq, Repr

/-- How an array or object ends. -/
inductive Ending where
  /-- With its closing bracket. -/
  | closed
  /-- With a fault in place of a comma or the closing bracket. -/
  | broken (fault : Fault)
  deriving DecidableEq, Repr

/-- What a text holds.  A key of an object is a draft too, since anything may stand there. -/
inductive Draft where
  /-- The literal `null`. -/
  | null
  /-- A truth value. -/
  | bool (b : Bool)
  /-- A number. -/
  | number (n : Number)
  /-- A string. -/
  | string (s : String)
  /-- An array with its ending. -/
  | array (items : List Draft) (ending : Ending)
  /-- An object with its ending. -/
  | object (entries : List (Draft × Draft)) (ending : Ending)
  /-- A leaf that cannot be taken as a value. -/
  | flawed (flaw : Flaw)
  deriving Inhabited

namespace Ending

/-- The fault in place of the closing bracket, if there is one. -/
def fault? : Ending → Option Fault
  | .closed => none
  | .broken f => some f

end Ending

namespace Draft

/-- The first of two faults, if there is one. -/
def firstFault : Option Fault → Option Fault → Option Fault
  | some f, _ => some f
  | none, g => g

/-- The fault that skipping a key meets: anything but a string is out of place. -/
def keySkipFault : Draft → Option Fault
  | .string _ => none
  | .flawed flaw => flaw.skipped
  | _ => some .malformed

mutual
/-- The fault that skipping a part meets. -/
def skipFault : Draft → Option Fault
  | .array items ending => skipItems items ending
  | .object entries ending => skipEntries entries ending
  | .flawed flaw => flaw.skipped
  | _ => none
/-- The fault that skipping the items of an array meets. -/
def skipItems : List Draft → Ending → Option Fault
  | [], ending => ending.fault?
  | d :: rest, ending => firstFault (skipFault d) (skipItems rest ending)
/-- The fault that skipping the entries of an object meets. -/
def skipEntries : List (Draft × Draft) → Ending → Option Fault
  | [], ending => ending.fault?
  | (k, d) :: rest, ending =>
    firstFault (keySkipFault k) (firstFault (skipFault d) (skipEntries rest ending))
end

/-- A key, or the fault that taking it meets. -/
def key : Draft → Except Fault String
  | .string s => .ok s
  | .flawed flaw => .error flaw.wanted
  | _ => .error .malformed

mutual
/-- The whole part as a JSON tree, or the first fault in it. -/
def settle : Draft → Except Fault Json
  | .null => .ok .null
  | .bool b => .ok (.bool b)
  | .number n => .ok (.number n)
  | .string s => .ok (.string s)
  | .array items ending => do
    let js ← settleItems items
    match ending with
    | .closed => .ok (.array js)
    | .broken f => .error f
  | .object entries ending => do
    let es ← settleEntries entries
    match ending with
    | .closed => .ok (.object es)
    | .broken f => .error f
  | .flawed flaw => .error flaw.wanted
/-- The items as JSON trees. -/
def settleItems : List Draft → Except Fault (List Json)
  | [] => .ok []
  | d :: rest => do
    let j ← settle d
    let js ← settleItems rest
    .ok (j :: js)
/-- The entries as keys and JSON trees. -/
def settleEntries : List (Draft × Draft) → Except Fault (List (String × Json))
  | [] => .ok []
  | (k, d) :: rest => do
    let name ← key k
    let j ← settle d
    let es ← settleEntries rest
    .ok ((name, j) :: es)
end

end Draft

namespace Json

mutual
/-- A JSON tree as a draft without a fault. -/
def draft : Json → Draft
  | .null => .null
  | .bool b => .bool b
  | .number n => .number n
  | .string s => .string s
  | .array items => .array (draftItems items) .closed
  | .object entries => .object (draftEntries entries) .closed
/-- The items as drafts. -/
def draftItems : List Json → List Draft
  | [] => []
  | j :: rest => draft j :: draftItems rest
/-- The entries as drafts. -/
def draftEntries : List (String × Json) → List (Draft × Draft)
  | [] => []
  | (k, j) :: rest => (.string k, draft j) :: draftEntries rest
end

end Json

end SearchRequest
