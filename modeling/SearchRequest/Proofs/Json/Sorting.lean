import Mathlib.Data.List.Nodup
import Mathlib.Order.Lattice
import Mathlib.Order.Defs.LinearOrder
import SearchRequest.Json.Value

/-!
# Entries in another order

* `Json.Distinct` — no object of a tree repeats a key.
* `Json.perm_sortEntries` — sorting entries with distinct keys keeps every one of them.
* `Json.canonical_of_canonical` — a tree with sorted keys is its own canonical form.
* `Json.canonical_eq_object` — a tree that has the canonical form of an object is an object whose
  entries are the same ones in another order.
* `Json.depth_canonical` — sorting leaves the depth as it is.
-/

namespace SearchRequest.Json

variable {α β : Type}

/-! ## Keys -/

/-- The keys of entries. -/
def keys (entries : List (String × α)) : List String := entries.map Prod.fst

theorem mem_keys {key : String} {entries : List (String × α)} :
    key ∈ keys entries ↔ ∃ a, (key, a) ∈ entries := by
  simp [keys]

@[simp] theorem keys_append (es fs : List (String × α)) : keys (es ++ fs) = keys es ++ keys fs :=
  List.map_append

theorem Increasing.nodup_keys {entries : List (String × α)} (h : Increasing entries) :
    (keys entries).Nodup := by
  refine List.pairwise_map.2 (h.imp fun {a b} hab heq => ?_)
  rw [heq] at hab
  exact String.lt_irrefl b.1 hab

/-! ## Sorting -/

theorem perm_insertEntry {key : String} {a : α} :
    ∀ {entries : List (String × α)}, key ∉ keys entries →
      (insertEntry key a entries).Perm ((key, a) :: entries)
  | [], _ => .refl _
  | (k, b) :: rest, h => by
    have hne : key ≠ k := fun heq => h (by simp [keys, heq])
    have hrest : key ∉ keys rest := fun hmem => h (List.mem_cons_of_mem _ hmem)
    rw [insertEntry, if_neg hne]
    split
    · exact .refl _
    · exact ((perm_insertEntry hrest).cons _).trans (.swap _ _ _)

theorem perm_foldl_insertEntry :
    ∀ {entries sorted : List (String × α)}, (keys (sorted ++ entries)).Nodup →
      (entries.foldl (fun sorted (k, a) => insertEntry k a sorted) sorted).Perm (sorted ++ entries)
  | [], sorted, _ => by simp
  | (k, a) :: rest, sorted, h => by
    have hmiddle : (sorted ++ (k, a) :: rest).Perm ((k, a) :: (sorted ++ rest)) := List.perm_middle
    have hnodup : (keys ((k, a) :: (sorted ++ rest))).Nodup :=
      (hmiddle.map Prod.fst).nodup_iff.1 h
    have hk : k ∉ keys sorted := fun hmem =>
      (List.nodup_cons.1 hnodup).1 (List.map_append ▸ List.mem_append_left _ hmem)
    have hinsert : (insertEntry k a sorted ++ rest).Perm ((k, a) :: (sorted ++ rest)) :=
      (perm_insertEntry hk).append_right rest
    have hnodup' : (keys (insertEntry k a sorted ++ rest)).Nodup :=
      (hinsert.map Prod.fst).nodup_iff.2 hnodup
    exact (perm_foldl_insertEntry hnodup').trans (hinsert.trans hmiddle.symm)

/-- Sorting entries with distinct keys keeps every one of them. -/
theorem perm_sortEntries {entries : List (String × α)} (h : (keys entries).Nodup) :
    (sortEntries entries).Perm entries :=
  perm_foldl_insertEntry (by simpa using h)

theorem mem_keys_insertEntry {key k : String} {a : α} {entries : List (String × α)} :
    k ∈ keys (insertEntry key a entries) ↔ k = key ∨ k ∈ keys entries := by
  induction entries with
  | nil => simp [insertEntry, keys]
  | cons e rest ih =>
    obtain ⟨k', b⟩ := e
    simp only [keys] at ih
    unfold insertEntry
    split
    · simp [keys]
    · split
      · next heq => simp [keys, heq]
      · simp only [keys, List.map_cons, List.mem_cons, ih]
        exact or_left_comm

theorem mem_keys_foldl_insertEntry {k : String} {entries : List (String × α)} :
    ∀ {sorted : List (String × α)},
      k ∈ keys (entries.foldl (fun sorted (k, a) => insertEntry k a sorted) sorted) ↔
        k ∈ keys sorted ∨ k ∈ keys entries := by
  induction entries with
  | nil => simp [keys]
  | cons e rest ih =>
    intro sorted
    rw [List.foldl_cons, ih, mem_keys_insertEntry]
    simp only [keys, List.map_cons, List.mem_cons]
    rw [or_assoc, or_left_comm]

/-- Sorting keeps every key. -/
theorem mem_keys_sortEntries {k : String} {entries : List (String × α)} :
    k ∈ keys (sortEntries entries) ↔ k ∈ keys entries := by
  rw [sortEntries, mem_keys_foldl_insertEntry]
  simp [keys]

/-- Sorted entries with distinct keys are determined by what they are. -/
theorem eq_of_perm_of_increasing {es fs : List (String × α)} (h : es.Perm fs)
    (hes : Increasing es) (hfs : Increasing fs) : es = fs :=
  h.eq_of_pairwise (fun _ _ _ _ hab hba => absurd (String.lt_trans hab hba) (String.lt_irrefl _))
    hes hfs

theorem sortEntries_perm {es fs : List (String × α)} (h : es.Perm fs) (hes : (keys es).Nodup) :
    sortEntries es = sortEntries fs := by
  have hfs : (keys fs).Nodup := (h.map Prod.fst).nodup_iff.1 hes
  exact eq_of_perm_of_increasing
    ((perm_sortEntries hes).trans (h.trans (perm_sortEntries hfs).symm))
    (increasing_sortEntries es) (increasing_sortEntries fs)

theorem sortEntries_of_increasing {entries : List (String × α)} (h : Increasing entries) :
    sortEntries entries = entries :=
  eq_of_perm_of_increasing (perm_sortEntries h.nodup_keys) (increasing_sortEntries entries) h

/-- Entries with other values, the same function of each, are put in at the same places. -/
theorem insertEntry_map (f : α → β) (key : String) (a : α) (entries : List (String × α)) :
    insertEntry key (f a) (entries.map (Prod.map id f)) =
      (insertEntry key a entries).map (Prod.map id f) := by
  induction entries with
  | nil => rfl
  | cons e rest ih =>
    simp only [List.map_cons, Prod.map, insertEntry, id]
    split_ifs
    · rfl
    · rfl
    · exact congrArg _ ih

theorem foldl_insertEntry_map (f : α → β) (entries sorted : List (String × α)) :
    (entries.map (Prod.map id f)).foldl (fun sorted (k, b) => insertEntry k b sorted)
        (sorted.map (Prod.map id f)) =
      (entries.foldl (fun sorted (k, a) => insertEntry k a sorted) sorted).map (Prod.map id f) := by
  induction entries generalizing sorted with
  | nil => rfl
  | cons e rest ih =>
    have hinsert := insertEntry_map f e.1 e.2 sorted
    rw [List.map_cons, List.foldl_cons, List.foldl_cons, ← ih, ← hinsert]
    rfl

/-- Sorting does not look at the values. -/
theorem sortEntries_map (f : α → β) (entries : List (String × α)) :
    sortEntries (entries.map (Prod.map id f)) = (sortEntries entries).map (Prod.map id f) :=
  foldl_insertEntry_map f entries []

/-! ## Looking up -/

theorem lookup_eq_none_iff {key : String} {entries : List (String × Json)} :
    lookup key entries = none ↔ key ∉ keys entries := by
  induction entries with
  | nil => simp [lookup, keys]
  | cons e rest ih =>
    obtain ⟨k, j⟩ := e
    by_cases h : k = key
    · simp [lookup, keys, h]
    · simp only [lookup, if_neg h, ih]
      simp [keys, Ne.symm h]

theorem lookup_eq_some_iff {key : String} {j : Json} :
    ∀ {entries : List (String × Json)}, (keys entries).Nodup →
      (lookup key entries = some j ↔ (key, j) ∈ entries)
  | [], _ => by simp [lookup]
  | (k, i) :: rest, h => by
    obtain ⟨hk, hrest⟩ := List.nodup_cons.1 h
    by_cases heq : k = key
    · subst heq
      have hmem : (k, j) ∉ rest := fun hmem => hk (mem_keys.2 ⟨j, hmem⟩)
      simp [lookup, hmem, eq_comm]
    · simp [lookup, heq, Ne.symm heq, lookup_eq_some_iff hrest]

theorem lookup_append {key : String} (es fs : List (String × Json)) :
    lookup key (es ++ fs) = (lookup key es).or (lookup key fs) := by
  induction es with
  | nil => rfl
  | cons e rest ih =>
    obtain ⟨k, j⟩ := e
    by_cases h : k = key <;> simp [lookup, h, ih]

theorem lookup_perm {key : String} {es fs : List (String × Json)} (h : es.Perm fs)
    (hes : (keys es).Nodup) : lookup key es = lookup key fs := by
  have hfs : (keys fs).Nodup := (h.map Prod.fst).nodup_iff.1 hes
  refine Option.ext fun j => ?_
  rw [lookup_eq_some_iff hes, lookup_eq_some_iff hfs, h.mem_iff]

theorem lookup_canonicalEntries (key : String) (entries : List (String × Json)) :
    lookup key (canonicalEntries entries) = (lookup key entries).map canonical := by
  induction entries with
  | nil => rfl
  | cons e rest ih =>
    obtain ⟨k, j⟩ := e
    by_cases h : k = key <;> simp [canonicalEntries, lookup, h, ih]

theorem canonicalEntries_eq_map (entries : List (String × Json)) :
    canonicalEntries entries = entries.map fun e => (e.1, e.2.canonical) := by
  induction entries with
  | nil => rfl
  | cons e rest ih => rw [canonicalEntries, ih, List.map_cons]

theorem keys_canonicalEntries (entries : List (String × Json)) :
    keys (canonicalEntries entries) = keys entries := by
  simp [canonicalEntries_eq_map, keys]

/-! ## Trees without repeated keys -/

mutual
/-- No object of a tree repeats a key. -/
def Distinct : Json → Prop
  | .array items => DistinctItems items
  | .object entries => (keys entries).Nodup ∧ DistinctEntries entries
  | _ => True
/-- No object of an item repeats a key. -/
def DistinctItems : List Json → Prop
  | [] => True
  | j :: rest => Distinct j ∧ DistinctItems rest
/-- No object of an entry repeats a key. -/
def DistinctEntries : List (String × Json) → Prop
  | [] => True
  | (_, j) :: rest => Distinct j ∧ DistinctEntries rest
end

theorem distinctItems_iff {items : List Json} :
    DistinctItems items ↔ ∀ j ∈ items, Distinct j := by
  induction items with
  | nil => simp [DistinctItems]
  | cons j rest ih => simp [DistinctItems, ih]

theorem distinctEntries_iff {entries : List (String × Json)} :
    DistinctEntries entries ↔ ∀ e ∈ entries, Distinct e.2 := by
  induction entries with
  | nil => simp [DistinctEntries]
  | cons e rest ih => simp [DistinctEntries, ih]

mutual
theorem Canonical.distinct : ∀ {j : Json}, Canonical j → Distinct j
  | .null, _ => trivial
  | .bool _, _ => trivial
  | .number _, _ => trivial
  | .string _, _ => trivial
  | .array _, h => CanonicalItems.distinct h
  | .object _, h => ⟨h.1.nodup_keys, CanonicalEntries.distinct h.2⟩
theorem CanonicalItems.distinct : ∀ {js : List Json}, CanonicalItems js → DistinctItems js
  | [], _ => trivial
  | _ :: _, h => ⟨h.1.distinct, CanonicalItems.distinct h.2⟩
theorem CanonicalEntries.distinct :
    ∀ {es : List (String × Json)}, CanonicalEntries es → DistinctEntries es
  | [], _ => trivial
  | (_, _) :: _, h => ⟨h.1.distinct, CanonicalEntries.distinct h.2⟩
end

theorem distinct_of_leaf {j : Json} (h : j.depth = 0) : j.Distinct := by
  cases j with
  | array => cases h
  | object => cases h
  | _ => trivial

theorem distinct_canonical (j : Json) : j.canonical.Distinct := j.canonical_canonical.distinct

/-! ## Canonical forms -/

mutual
/-- A tree with sorted keys is its own canonical form. -/
theorem canonical_of_canonical : ∀ {j : Json}, Canonical j → j.canonical = j
  | .null, _ => rfl
  | .bool _, _ => rfl
  | .number _, _ => rfl
  | .string _, _ => rfl
  | .array items, h => congrArg Json.array (canonicalItems_of_canonical h)
  | .object entries, h => by
    rw [canonical, canonicalEntries_of_canonical h.2, sortEntries_of_increasing h.1]
theorem canonicalItems_of_canonical : ∀ {js : List Json}, CanonicalItems js →
    canonicalItems js = js
  | [], _ => rfl
  | j :: rest, h => by
    rw [canonicalItems, canonical_of_canonical h.1, canonicalItems_of_canonical h.2]
theorem canonicalEntries_of_canonical : ∀ {es : List (String × Json)}, CanonicalEntries es →
    canonicalEntries es = es
  | [], _ => rfl
  | (k, j) :: rest, h => by
    rw [canonicalEntries, canonical_of_canonical h.1, canonicalEntries_of_canonical h.2]
end

theorem canonical_idem (j : Json) : j.canonical.canonical = j.canonical :=
  canonical_of_canonical j.canonical_canonical

/-- A tree that has the canonical form of an object is an object whose entries are the same ones
in another order. -/
theorem canonical_eq_object {j : Json} {es : List (String × Json)} (hj : j.Distinct)
    (hes : (keys es).Nodup) (h : j.canonical = (object es).canonical) :
    ∃ js, j = object js ∧ (canonicalEntries js).Perm (canonicalEntries es) := by
  cases j with
  | object js =>
    have hsorted : sortEntries (canonicalEntries js) = sortEntries (canonicalEntries es) :=
      Json.object.inj h
    have hkeys : (keys (canonicalEntries js)).Nodup := by
      rw [keys_canonicalEntries]
      exact hj.1
    have hkeys' : (keys (canonicalEntries es)).Nodup := by
      rw [keys_canonicalEntries]
      exact hes
    refine ⟨js, rfl, (perm_sortEntries hkeys).symm.trans ?_⟩
    rw [hsorted]
    exact perm_sortEntries hkeys'
  | _ => cases h

theorem canonical_eq_array {j : Json} {items : List Json}
    (h : j.canonical = (array items).canonical) :
    ∃ js, j = array js ∧ canonicalItems js = canonicalItems items := by
  cases j with
  | array js => exact ⟨js, rfl, Json.array.inj h⟩
  | _ => cases h

/-! ## Depth -/

theorem depthOfItems_le_iff {n : Nat} {items : List Json} :
    depthOfItems items ≤ n ↔ ∀ j ∈ items, j.depth ≤ n := by
  induction items with
  | nil => simp [depthOfItems]
  | cons j rest ih => simp [depthOfItems, ih]

theorem depthOfEntries_le_iff {n : Nat} {entries : List (String × Json)} :
    depthOfEntries entries ≤ n ↔ ∀ e ∈ entries, e.2.depth ≤ n := by
  induction entries with
  | nil => simp [depthOfEntries]
  | cons e rest ih => simp [depthOfEntries, ih]

theorem depthOfEntries_perm {es fs : List (String × Json)} (h : es.Perm fs) :
    depthOfEntries es = depthOfEntries fs := by
  refine eq_of_forall_ge_iff fun n => ?_
  simp only [depthOfEntries_le_iff, h.mem_iff]

mutual
/-- Sorting leaves the depth as it is. -/
theorem depth_canonical : ∀ {j : Json}, j.Distinct → j.canonical.depth = j.depth
  | .null, _ => rfl
  | .bool _, _ => rfl
  | .number _, _ => rfl
  | .string _, _ => rfl
  | .array items, h => congrArg (· + 1) (depthOfItems_canonicalItems h)
  | .object entries, h => by
    have hkeys : (keys (canonicalEntries entries)).Nodup := by
      rw [keys_canonicalEntries]
      exact h.1
    rw [canonical, depth, depthOfEntries_perm (perm_sortEntries hkeys),
      depthOfEntries_canonicalEntries h.2, depth]
theorem depthOfItems_canonicalItems : ∀ {js : List Json}, DistinctItems js →
    depthOfItems (canonicalItems js) = depthOfItems js
  | [], _ => rfl
  | j :: rest, h => by
    rw [canonicalItems, depthOfItems, depth_canonical h.1, depthOfItems_canonicalItems h.2,
      depthOfItems]
theorem depthOfEntries_canonicalEntries : ∀ {es : List (String × Json)}, DistinctEntries es →
    depthOfEntries (canonicalEntries es) = depthOfEntries es
  | [], _ => rfl
  | (k, j) :: rest, h => by
    rw [canonicalEntries, depthOfEntries, depth_canonical h.1,
      depthOfEntries_canonicalEntries h.2, depthOfEntries]
end

end SearchRequest.Json
