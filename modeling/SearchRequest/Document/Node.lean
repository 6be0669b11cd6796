import SearchRequest.Json.Basic

/-!
# Written values

A value of a request document is written as a `Node`: a JSON tree that still knows which of its
objects stand for the named case of a choice.  JSON writes such a case as an object with the name
as its only key; YAML writes it as a tag.

* `Node` — the tree.
* `Node.toJson` — the JSON tree of a written value.
* `Json.node` — a JSON tree as a written value.
* `Node.member`, `Node.optional` — one field of a record.
-/

namespace SearchRequest

/-- A written value. -/
inductive Node where
  /-- The literal `null`. -/
  | null
  /-- A truth value. -/
  | bool (b : Bool)
  /-- A number. -/
  | number (n : Number)
  /-- A string. -/
  | string (s : String)
  /-- A list. -/
  | list (items : List Node)
  /-- A record or map, as its entries in order. -/
  | record (entries : List (String × Node))
  /-- A case of a choice, with its name. -/
  | named (name : String) (body : Node)
  deriving Inhabited

namespace Node

mutual
/-- The JSON tree of a written value.  A number that is not finite becomes `null`. -/
def toJson : Node → Json
  | .null => .null
  | .bool b => .bool b
  | .number n => if n.isFinite then .number n else .null
  | .string s => .string s
  | .list items => .array (itemsToJson items)
  | .record entries => .object (entriesToJson entries)
  | .named name body => .object [(name, toJson body)]
/-- The JSON trees of items. -/
def itemsToJson : List Node → List Json
  | [] => []
  | n :: rest => toJson n :: itemsToJson rest
/-- The JSON trees of entries. -/
def entriesToJson : List (String × Node) → List (String × Json)
  | [] => []
  | (k, n) :: rest => (k, toJson n) :: entriesToJson rest
end

/-- A field that is always written. -/
def member (name : String) (n : Node) : List (String × Node) := [(name, n)]

/-- A field that is written when it has a value. -/
def optional {α : Type} (name : String) (write : α → Node) : Option α → List (String × Node)
  | none => []
  | some a => [(name, write a)]

/-- A list of values. -/
def listOf {α : Type} (write : α → Node) (as : List α) : Node := .list (as.map write)

/-- A list of strings. -/
def strings (ss : List String) : Node := listOf .string ss

/-- A map from strings to strings. -/
def stringMap (entries : List (String × String)) : Node :=
  .record (entries.map fun (k, s) => (k, .string s))

end Node

namespace Json

mutual
/-- A JSON tree as a written value. -/
def node : Json → Node
  | .null => .null
  | .bool b => .bool b
  | .number n => .number n
  | .string s => .string s
  | .array items => .list (nodesOfItems items)
  | .object entries => .record (nodesOfEntries entries)
/-- Items as written values. -/
def nodesOfItems : List Json → List Node
  | [] => []
  | j :: rest => node j :: nodesOfItems rest
/-- Entries as written values. -/
def nodesOfEntries : List (String × Json) → List (String × Node)
  | [] => []
  | (k, j) :: rest => (k, node j) :: nodesOfEntries rest
end

end Json

end SearchRequest
