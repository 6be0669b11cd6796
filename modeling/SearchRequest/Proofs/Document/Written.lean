import SearchRequest.Document.Node
import SearchRequest.Proofs.Json.Sorting
import SearchRequest.Proofs.Json.Texts

/-!
# What a written value looks like in JSON

* `Node.Faithful` — every number of a written value is of a kind that texts are read as.
* `Node.Writes` — a tree is the JSON of a written value, its entries in any order.
* `Node.WritesEntries` — entries are those of a record in JSON, in any order.
* `Node.Writes.list`, `Node.Writes.record`, `Node.Writes.named` — what such a tree is.
-/

namespace SearchRequest

namespace Node

/-! ## Faithful values -/

mutual
/-- Every number of a written value is of a kind that texts are read as. -/
def Faithful : Node → Prop
  | .number n => n.Faithful
  | .list items => FaithfulItems items
  | .record entries => FaithfulEntries entries
  | .named _ body => Faithful body
  | _ => True
/-- Every item is faithful. -/
def FaithfulItems : List Node → Prop
  | [] => True
  | n :: rest => Faithful n ∧ FaithfulItems rest
/-- Every entry is faithful. -/
def FaithfulEntries : List (String × Node) → Prop
  | [] => True
  | (_, n) :: rest => Faithful n ∧ FaithfulEntries rest
end

theorem faithfulItems_iff {items : List Node} :
    FaithfulItems items ↔ ∀ n ∈ items, Faithful n := by
  induction items with
  | nil => simp [FaithfulItems]
  | cons n rest ih => simp [FaithfulItems, ih]

theorem faithfulEntries_iff {entries : List (String × Node)} :
    FaithfulEntries entries ↔ ∀ e ∈ entries, Faithful e.2 := by
  induction entries with
  | nil => simp [FaithfulEntries]
  | cons e rest ih => simp [FaithfulEntries, ih]

theorem faithful_optional {α : Type} {name : String} {write : α → Node} {v : Option α}
    (h : ∀ a ∈ v, (write a).Faithful) : ∀ e ∈ Node.optional name write v, e.2.Faithful := by
  cases v with
  | none => exact nofun
  | some a => exact List.forall_mem_singleton.2 (h a rfl)

mutual
theorem Faithful.toJson : ∀ {n : Node}, n.Faithful → n.toJson.Faithful
  | .null, _ => trivial
  | .bool _, _ => trivial
  | .number m, h => by
    rw [Node.toJson, if_pos (Number.Faithful.isFinite h)]
    exact h
  | .string _, _ => trivial
  | .list _, h => FaithfulItems.toJson h
  | .record _, h => FaithfulEntries.toJson h
  | .named _ _, h => ⟨Faithful.toJson h, trivial⟩
theorem FaithfulItems.toJson : ∀ {ns : List Node}, FaithfulItems ns →
    Json.FaithfulItems (itemsToJson ns)
  | [], _ => trivial
  | _ :: _, h => ⟨h.1.toJson, FaithfulItems.toJson h.2⟩
theorem FaithfulEntries.toJson : ∀ {es : List (String × Node)}, FaithfulEntries es →
    Json.FaithfulEntries (entriesToJson es)
  | [], _ => trivial
  | (_, _) :: _, h => ⟨h.1.toJson, FaithfulEntries.toJson h.2⟩
end

mutual
/-- A tree is what its written value has in JSON. -/
theorem toJson_node : ∀ {j : Json}, j.node.Faithful → j.node.toJson = j
  | .null, _ => rfl
  | .bool _, _ => rfl
  | .number _, h => if_pos (Number.Faithful.isFinite h)
  | .string _, _ => rfl
  | .array _, h => congrArg Json.array (itemsToJson_nodesOfItems h)
  | .object _, h => congrArg Json.object (entriesToJson_nodesOfEntries h)
theorem itemsToJson_nodesOfItems : ∀ {js : List Json}, FaithfulItems (Json.nodesOfItems js) →
    itemsToJson (Json.nodesOfItems js) = js
  | [], _ => rfl
  | _ :: _, h => congrArg₂ List.cons (toJson_node h.1) (itemsToJson_nodesOfItems h.2)
theorem entriesToJson_nodesOfEntries : ∀ {es : List (String × Json)},
    FaithfulEntries (Json.nodesOfEntries es) → entriesToJson (Json.nodesOfEntries es) = es
  | [], _ => rfl
  | (_, _) :: _, h =>
    congrArg₂ List.cons (congrArg _ (toJson_node h.1)) (entriesToJson_nodesOfEntries h.2)
end

/-! ## Entries -/

theorem itemsToJson_eq_map (ns : List Node) : itemsToJson ns = ns.map toJson := by
  induction ns with
  | nil => rfl
  | cons n rest ih => rw [itemsToJson, ih, List.map_cons]

theorem entriesToJson_eq_map (es : List (String × Node)) :
    entriesToJson es = es.map fun e => (e.1, e.2.toJson) := by
  induction es with
  | nil => rfl
  | cons e rest ih => rw [entriesToJson, ih, List.map_cons]

theorem entriesToJson_append (es fs : List (String × Node)) :
    entriesToJson (es ++ fs) = entriesToJson es ++ entriesToJson fs := by
  simp [entriesToJson_eq_map]

theorem keys_entriesToJson (es : List (String × Node)) :
    Json.keys (entriesToJson es) = Json.keys es := by
  simp [entriesToJson_eq_map, Json.keys]

theorem keys_optional_sublist {α : Type} (name : String) (write : α → Node) (v : Option α) :
    (Json.keys (Node.optional name write v)).Sublist [name] := by
  cases v with
  | none => exact List.nil_sublist _
  | some a => exact List.Sublist.refl _

/-! ## Trees of a written value -/

/-- A tree is the JSON of a written value, its entries in any order. -/
def Writes (n : Node) (j : Json) : Prop := j.Distinct ∧ j.canonical = n.toJson.canonical

theorem writes_toJson {n : Node} (h : n.toJson.Distinct) : n.Writes n.toJson := ⟨h, rfl⟩

theorem writes_canonical (n : Node) : n.Writes n.toJson.canonical :=
  ⟨Json.distinct_canonical _, Json.canonical_idem _⟩

namespace Writes

variable {n : Node} {j : Json}

theorem depth_eq (h : n.Writes j) (hn : n.toJson.Distinct) : j.depth = n.toJson.depth := by
  rw [← Json.depth_canonical h.1, h.2, Json.depth_canonical hn]

theorem eq_of_leaf (h : n.Writes j) (hn : n.toJson.depth = 0) : j = n.toJson := by
  obtain ⟨-, h⟩ := h
  generalize n.toJson = i at h hn
  cases i <;> cases j <;> first | exact h | cases h | cases hn

theorem eq_null (h : n.Writes .null) : n.toJson = .null := by
  obtain ⟨-, h⟩ := h
  generalize n.toJson = i at h
  cases i <;> first | rfl | cases h

/-- The JSON of a list. -/
theorem list {ns : List Node} (h : (Node.list ns).Writes j) :
    ∃ js, j = .array js ∧ List.Forall₂ Writes ns js := by
  obtain ⟨hdistinct, h⟩ := h
  obtain ⟨js, rfl, hjs⟩ := Json.canonical_eq_array h
  refine ⟨js, rfl, ?_⟩
  rw [itemsToJson_eq_map] at hjs
  have hdistinct' := Json.distinctItems_iff.1 hdistinct
  clear h hdistinct
  induction ns generalizing js with
  | nil =>
    cases js with
    | nil => exact .nil
    | cons i rest => cases hjs
  | cons n rest ih =>
    cases js with
    | nil => cases hjs
    | cons i js =>
      obtain ⟨hi, hrest⟩ := List.cons.inj hjs
      exact .cons ⟨hdistinct' i (by simp), hi⟩
        (ih js hrest fun i' hi' => hdistinct' i' (List.mem_cons_of_mem _ hi'))

end Writes

/-! ## Entries in any order -/

/-- Entries are those of a record in JSON, in any order. -/
structure WritesEntries (es : List (String × Node)) (js : List (String × Json)) : Prop where
  /-- No key is repeated. -/
  nodup : (Json.keys js).Nodup
  /-- No object in a value repeats a key. -/
  distinct : ∀ e ∈ js, e.2.Distinct
  /-- Up to the order of entries they are those of the record. -/
  perm : (Json.canonicalEntries js).Perm (Json.canonicalEntries (entriesToJson es))

namespace WritesEntries

variable {es fs : List (String × Node)} {js : List (String × Json)}

theorem keys_perm (h : WritesEntries es js) : (Json.keys js).Perm (Json.keys es) := by
  have hkeys := h.perm.map Prod.fst
  rw [← Json.keys, ← Json.keys, Json.keys_canonicalEntries, Json.keys_canonicalEntries,
    keys_entriesToJson] at hkeys
  exact hkeys

theorem lookup (h : WritesEntries es js) (key : String) :
    (Json.lookup key js).map Json.canonical =
      (Json.lookup key (entriesToJson es)).map Json.canonical := by
  rw [← Json.lookup_canonicalEntries, ← Json.lookup_canonicalEntries]
  refine Json.lookup_perm h.perm ?_
  rw [Json.keys_canonicalEntries]
  exact h.nodup

theorem of_perm (h : WritesEntries es js) (hperm : es.Perm fs) : WritesEntries fs js := by
  refine ⟨h.nodup, h.distinct, h.perm.trans ?_⟩
  rw [Json.canonicalEntries_eq_map, Json.canonicalEntries_eq_map, entriesToJson_eq_map,
    entriesToJson_eq_map]
  exact (hperm.map _).map _

theorem filter (h : WritesEntries es js) (keep : String → Bool) :
    WritesEntries (es.filter fun e => keep e.1) (js.filter fun e => keep e.1) := by
  refine ⟨h.nodup.sublist (List.filter_sublist.map _), fun e he => ?_, ?_⟩
  · exact h.distinct e (List.mem_filter.1 he).1
  · have hperm := h.perm.filter fun e => keep e.1
    simp only [Json.canonicalEntries_eq_map, entriesToJson_eq_map, List.filter_map] at hperm ⊢
    exact hperm

end WritesEntries

namespace Writes

variable {n : Node} {j : Json}

/-- The JSON of a record. -/
theorem record {es : List (String × Node)} (h : (Node.record es).Writes j)
    (hes : (Json.keys es).Nodup) : ∃ js, j = .object js ∧ WritesEntries es js := by
  obtain ⟨hdistinct, h⟩ := h
  obtain ⟨js, rfl, hperm⟩ :=
    Json.canonical_eq_object hdistinct (by rwa [keys_entriesToJson]) h
  exact ⟨js, rfl, hdistinct.1, Json.distinctEntries_iff.1 hdistinct.2, hperm⟩

/-- The JSON of a case of a choice. -/
theorem named {name : String} {body : Node} (h : (Node.named name body).Writes j) :
    ∃ i, j = .object [(name, i)] ∧ body.Writes i := by
  have hrecord : (Node.record [(name, body)]).Writes j := h
  obtain ⟨js, rfl, hjs⟩ := hrecord.record (List.nodup_singleton _)
  have hlength := hjs.keys_perm.length_eq
  match js with
  | [] => cases hlength
  | [(k, i)] =>
    obtain ⟨rfl, hi⟩ := Prod.mk.inj (List.singleton_perm_singleton.1 hjs.perm)
    exact ⟨i, rfl, hjs.distinct _ (List.mem_singleton_self _), hi⟩
  | _ :: _ :: _ => cases hlength

end Writes

end Node

end SearchRequest
