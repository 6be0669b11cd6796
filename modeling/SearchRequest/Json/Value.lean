import SearchRequest.Json.Decoder

/-!
# Values and maps with sorted keys

A JSON value that a caller hands in, or that is kept from a document, is held in canonical form:
the keys of each of its objects are in increasing order, each once.

* `Json.Canonical` — the predicate; `canonical_canonical`: the canonical form of a tree has it.
* `Value` — a tree in canonical form.
* `ValueMap` — the entries of an object in canonical form.
* `StringMap` — a map from strings to strings with increasing keys.
-/

namespace SearchRequest

namespace Json

mutual
/-- The keys of every object are in increasing order, each once. -/
def Canonical : Json → Prop
  | .array items => CanonicalItems items
  | .object entries => Increasing entries ∧ CanonicalEntries entries
  | _ => True
/-- Every item is canonical. -/
def CanonicalItems : List Json → Prop
  | [] => True
  | j :: rest => Canonical j ∧ CanonicalItems rest
/-- Every entry is canonical. -/
def CanonicalEntries : List (String × Json) → Prop
  | [] => True
  | (_, j) :: rest => Canonical j ∧ CanonicalEntries rest
end

theorem canonicalItems_iff {items : List Json} :
    CanonicalItems items ↔ ∀ j ∈ items, Canonical j := by
  induction items with
  | nil => simp [CanonicalItems]
  | cons j rest ih => simp [CanonicalItems, ih]

theorem canonicalEntries_iff {entries : List (String × Json)} :
    CanonicalEntries entries ↔ ∀ e ∈ entries, Canonical e.2 := by
  induction entries with
  | nil => simp [CanonicalEntries]
  | cons e rest ih => simp [CanonicalEntries, ih]

mutual
theorem canonical_canonical : ∀ j : Json, Canonical (canonical j)
  | .null => trivial
  | .bool _ => trivial
  | .number _ => trivial
  | .string _ => trivial
  | .array items => canonicalItems_canonicalItems items
  | .object entries =>
    ⟨increasing_sortEntries _, canonicalEntries_iff.2 fun e he =>
      canonicalEntries_iff.1 (canonicalEntries_canonicalEntries entries) e (mem_sortEntries he)⟩
theorem canonicalItems_canonicalItems : ∀ js : List Json, CanonicalItems (canonicalItems js)
  | [] => trivial
  | j :: rest => ⟨canonical_canonical j, canonicalItems_canonicalItems rest⟩
theorem canonicalEntries_canonicalEntries :
    ∀ es : List (String × Json), CanonicalEntries (canonicalEntries es)
  | [] => trivial
  | (_, j) :: rest => ⟨canonical_canonical j, canonicalEntries_canonicalEntries rest⟩
end

theorem mem_of_lookup {key : String} {j : Json} :
    ∀ {entries : List (String × Json)}, lookup key entries = some j → (key, j) ∈ entries
  | [], h => by cases h
  | (k, i) :: rest, h => by
    unfold lookup at h
    split at h
    · next heq =>
      cases h
      subst heq
      exact List.mem_cons_self
    · exact List.mem_cons_of_mem _ (mem_of_lookup h)

end Json

/-! ## Values -/

/-- A JSON tree in canonical form. -/
structure Value where
  /-- The tree. -/
  tree : Json
  /-- It is in canonical form. -/
  canonical : tree.Canonical

/-- The entries of a JSON object in canonical form. -/
structure ValueMap where
  /-- The entries, sorted by key. -/
  entries : List (String × Json)
  /-- They are in canonical form. -/
  canonical : (Json.object entries).Canonical

/-- A map from strings to strings. -/
structure StringMap where
  /-- The entries, sorted by key. -/
  entries : List (String × String)
  /-- The keys are in increasing order, each once. -/
  increasing : Json.Increasing entries
  deriving DecidableEq

namespace Value

/-- The canonical form of a tree. -/
def ofJson (j : Json) : Value := ⟨j.canonical, j.canonical_canonical⟩

instance : Inhabited Value := ⟨⟨.null, trivial⟩⟩

instance : BEq Value := ⟨fun v w => v.tree.same w.tree⟩

/-- The literal `null`. -/
def null : Value := ⟨.null, trivial⟩

/-- A truth value. -/
def bool (b : Bool) : Value := ⟨.bool b, trivial⟩

/-- A number, or `null` when it is not finite. -/
def number (n : Number) : Value :=
  if n.isFinite then ⟨.number n.held, trivial⟩ else null

/-- A string. -/
def string (s : String) : Value := ⟨.string s, trivial⟩

/-- An array. -/
def array (items : List Value) : Value :=
  ⟨.array (items.map Value.tree), Json.canonicalItems_iff.2 fun _ h => by
    obtain ⟨v, -, rfl⟩ := List.mem_map.1 h
    exact v.canonical⟩

/-- The entries of an object. -/
def object? (v : Value) : Option ValueMap :=
  match v with
  | ⟨.object entries, h⟩ => some ⟨entries, h⟩
  | _ => none

end Value

namespace ValueMap

instance : BEq ValueMap := ⟨fun m n => Json.sameEntries m.entries n.entries⟩

/-- The map without entries. -/
def empty : ValueMap := ⟨[], List.Pairwise.nil, trivial⟩

instance : Inhabited ValueMap := ⟨empty⟩

/-- The object with these entries. -/
def toValue (m : ValueMap) : Value := ⟨.object m.entries, m.canonical⟩

/-- The map with an entry put in, in place of one of the same key. -/
def insert (m : ValueMap) (key : String) (v : Value) : ValueMap :=
  ⟨Json.insertEntry key v.tree m.entries,
    Json.increasing_insertEntry m.canonical.1,
    Json.canonicalEntries_iff.2 fun e he => by
      rcases Json.mem_insertEntry he with rfl | he
      · exact v.canonical
      · exact Json.canonicalEntries_iff.1 m.canonical.2 e he⟩

/-- The value of a key. -/
def get? (m : ValueMap) (key : String) : Option Value :=
  match h : Json.lookup key m.entries with
  | some j => some ⟨j, Json.canonicalEntries_iff.1 m.canonical.2 _ (Json.mem_of_lookup h)⟩
  | none => none

/-- The entries one by one. -/
def toList (m : ValueMap) : List (String × Value) :=
  m.entries.attach.map fun e =>
    (e.1.1, ⟨e.1.2, Json.canonicalEntries_iff.1 m.canonical.2 _ e.2⟩)

/-- The entries whose keys have a property. -/
def filter (m : ValueMap) (keep : String → Bool) : ValueMap :=
  ⟨m.entries.filter fun e => keep e.1,
    m.canonical.1.filter _,
    Json.canonicalEntries_iff.2 fun e he =>
      Json.canonicalEntries_iff.1 m.canonical.2 e (List.mem_filter.1 he).1⟩

/-- The map of entries given in any order, the last of each key being kept. -/
def ofJsonEntries (entries : List (String × Json)) : ValueMap :=
  ⟨Json.sortEntries (Json.canonicalEntries entries),
    (Json.canonical_canonical (.object entries)).1, (Json.canonical_canonical (.object entries)).2⟩

end ValueMap

namespace StringMap

instance : BEq StringMap := ⟨fun m n => m.entries == n.entries⟩

/-- The map without entries. -/
def empty : StringMap := ⟨[], List.Pairwise.nil⟩

instance : Inhabited StringMap := ⟨empty⟩

/-- The map of entries given in any order, the last of each key being kept. -/
def ofList (entries : List (String × String)) : StringMap :=
  ⟨Json.sortEntries entries, Json.increasing_sortEntries entries⟩

end StringMap

/-! ## Decoders -/

namespace Decoder

/-- A whole part, kept as a value. -/
def value : Decoder Value := fun _ d => (settled d).map Value.ofJson

/-- An object with any keys and values, kept as a map. -/
def stringMap : Decoder StringMap := fun o d =>
  match d with
  | .object es ending => (entries string o es ending).map StringMap.ofList
  | d => .error (mismatchOf d)

end Decoder

end SearchRequest
