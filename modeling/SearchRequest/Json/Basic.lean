import SearchRequest.Number.Basic

/-!
# JSON trees

An object is the list of its entries as they were written, so that a tree can also hold what a
text or a record with an open set of keys repeats.

* `Json` — the tree.
* `Json.depth` — how many arrays and objects are nested in one another.
* `Json.canonical` — the tree with the entries of every object sorted by key and the last entry of
  a repeated key kept.
* `Json.Increasing` — keys in increasing order, each once; `increasing_sortEntries`: sorting entries
  gives that.
* `Json.same` — equality with numbers compared as numbers.
-/

namespace SearchRequest

/-- A JSON tree. -/
inductive Json where
  /-- The literal `null`. -/
  | null
  /-- A truth value. -/
  | bool (b : Bool)
  /-- A number. -/
  | number (n : Number)
  /-- A string. -/
  | string (s : String)
  /-- An array. -/
  | array (items : List Json)
  /-- An object, as its entries in order. -/
  | object (entries : List (String × Json))
  deriving Inhabited

namespace Json

/-! ## Depth -/

mutual
/-- How many arrays and objects are nested in one another. -/
def depth : Json → Nat
  | .array items => depthOfItems items + 1
  | .object entries => depthOfEntries entries + 1
  | _ => 0
/-- The depth of the deepest item. -/
def depthOfItems : List Json → Nat
  | [] => 0
  | j :: rest => max (depth j) (depthOfItems rest)
/-- The depth of the deepest entry. -/
def depthOfEntries : List (String × Json) → Nat
  | [] => 0
  | (_, j) :: rest => max (depth j) (depthOfEntries rest)
end

/-! ## Canonical form -/

/-- Entries, sorted by key, with one more entry put in its place; it replaces one of the same
key. -/
def insertEntry {α : Type} (key : String) (a : α) : List (String × α) → List (String × α)
  | [] => [(key, a)]
  | (k, b) :: rest =>
    if key < k then (key, a) :: (k, b) :: rest
    else if key = k then (key, a) :: rest
    else (k, b) :: insertEntry key a rest

/-- Entries sorted by key, with the last one of each key. -/
def sortEntries {α : Type} (entries : List (String × α)) : List (String × α) :=
  entries.foldl (fun sorted (k, a) => insertEntry k a sorted) []

mutual
/-- The tree with the entries of every object sorted by key, the last of each key kept. -/
def canonical : Json → Json
  | .array items => .array (canonicalItems items)
  | .object entries => .object (sortEntries (canonicalEntries entries))
  | j => j
/-- The canonical forms of the items. -/
def canonicalItems : List Json → List Json
  | [] => []
  | j :: rest => canonical j :: canonicalItems rest
/-- The entries, each value in canonical form. -/
def canonicalEntries : List (String × Json) → List (String × Json)
  | [] => []
  | (k, j) :: rest => (k, canonical j) :: canonicalEntries rest
end

/-- Keys in increasing order, each once. -/
def Increasing {α : Type} (entries : List (String × α)) : Prop :=
  entries.Pairwise fun a b => a.1 < b.1

theorem mem_insertEntry {α : Type} {key : String} {a : α} {e : String × α} :
    ∀ {entries : List (String × α)}, e ∈ insertEntry key a entries → e = (key, a) ∨ e ∈ entries
  | [], h => by simpa [insertEntry] using h
  | (k, b) :: rest, h => by
    unfold insertEntry at h
    split at h
    · simpa using h
    · split at h
      · rcases List.mem_cons.1 h with h | h
        · exact .inl h
        · exact .inr (List.mem_cons_of_mem _ h)
      · rcases List.mem_cons.1 h with h | h
        · exact .inr (by simp [h])
        · rcases mem_insertEntry h with h | h
          · exact .inl h
          · exact .inr (List.mem_cons_of_mem _ h)

theorem increasing_insertEntry {α : Type} {key : String} {a : α} :
    ∀ {entries : List (String × α)}, Increasing entries → Increasing (insertEntry key a entries)
  | [], _ => by simp [insertEntry, Increasing]
  | (k, b) :: rest, h => by
    have hrest : Increasing rest := (List.pairwise_cons.1 h).2
    have hk : ∀ e ∈ rest, k < e.1 := (List.pairwise_cons.1 h).1
    unfold insertEntry
    split
    · next hlt =>
      refine List.pairwise_cons.2 ⟨fun e he => ?_, h⟩
      rcases List.mem_cons.1 he with rfl | he
      · exact hlt
      · exact String.lt_trans hlt (hk e he)
    · split
      · next heq =>
        subst heq
        exact List.pairwise_cons.2 ⟨hk, hrest⟩
      · next hnlt hne =>
        refine List.pairwise_cons.2 ⟨fun e he => ?_, increasing_insertEntry hrest⟩
        rcases mem_insertEntry he with rfl | he
        · have := String.lt_irrefl k
          grind
        · exact hk e he

theorem increasing_foldl_insertEntry {α : Type} :
    ∀ (entries : List (String × α)) {sorted : List (String × α)}, Increasing sorted →
      Increasing (entries.foldl (fun sorted (k, a) => insertEntry k a sorted) sorted)
  | [], _, h => h
  | _ :: rest, _, h =>
    increasing_foldl_insertEntry rest (increasing_insertEntry h)

theorem increasing_sortEntries {α : Type} (entries : List (String × α)) :
    Increasing (sortEntries entries) :=
  increasing_foldl_insertEntry entries List.Pairwise.nil

theorem mem_sortEntries {α : Type} {e : String × α} {entries : List (String × α)}
    (h : e ∈ sortEntries entries) : e ∈ entries := by
  suffices ∀ (entries sorted : List (String × α)),
      e ∈ entries.foldl (fun sorted (k, a) => insertEntry k a sorted) sorted →
        e ∈ sorted ∨ e ∈ entries by
    rcases this entries [] h with h | h
    · cases h
    · exact h
  intro entries
  induction entries with
  | nil => exact fun _ h => .inl h
  | cons x rest ih =>
    intro sorted h
    rcases ih _ h with h | h
    · rcases mem_insertEntry h with rfl | h
      · exact .inr (by simp)
      · exact .inl h
    · exact .inr (List.mem_cons_of_mem _ h)

/-! ## Equality -/

mutual
/-- Equality with numbers compared as numbers. -/
def same : Json → Json → Bool
  | .null, .null => true
  | .bool a, .bool b => a == b
  | .number m, .number n => m.same n
  | .string s, .string t => s == t
  | .array xs, .array ys => sameItems xs ys
  | .object xs, .object ys => sameEntries xs ys
  | _, _ => false
/-- Equality of items one by one. -/
def sameItems : List Json → List Json → Bool
  | [], [] => true
  | x :: xs, y :: ys => same x y && sameItems xs ys
  | _, _ => false
/-- Equality of entries one by one. -/
def sameEntries : List (String × Json) → List (String × Json) → Bool
  | [], [] => true
  | (k, x) :: xs, (l, y) :: ys => k == l && same x y && sameEntries xs ys
  | _, _ => false
end

instance : BEq Json := ⟨same⟩

/-! ## Looking into objects -/

/-- The value of the first entry with a key. -/
def lookup (key : String) : List (String × Json) → Option Json
  | [] => none
  | (k, j) :: rest => if k = key then some j else lookup key rest

/-- The text of a string. -/
def string? : Json → Option String
  | .string s => some s
  | _ => none

end Json

end SearchRequest
